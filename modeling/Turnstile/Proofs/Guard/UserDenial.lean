import Turnstile.Proofs.Guard.Permitted
import Turnstile.Proofs.Permission.Precedence

/-!
# A channel's denial for one user

The last override for a user that mentions a permission outranks all others that do, so what
it denies stays denied. The gate asks for more than that one bit, though: an administrator
passes it, and a channel may make an administrator of someone who is none in the server.

    LastForUser c a.overrides a.member.userId p o → ¬ p ∈ o.allow → ¬ a.Raised c →
      a.authorize (some c) {p} = .error (.permission (.missing {p}))    (authorize_of_user_denial)
-/

namespace Turnstile

/-- `o` is the last override of the channel for the user that mentions `p`. -/
def LastForUser (channel : Channel) (overrides : List Override) (userId : Uuid) (p : Permission)
    (o : Override) : Prop :=
  ∃ before after, overrides = before ++ o :: after ∧
    o.channelId = channel.id ∧ o.target = .user userId ∧ o.Mentions p ∧
    ∀ o' ∈ after, o'.channelId = channel.id → o'.target = .user userId → ¬ o'.Mentions p

/-- The strongest override of the channel that mentions the administrator permission allows
it to the actor. -/
def Actor.Raised (a : Actor) (channel : Channel) : Prop :=
  ∃ o, Decides a.member a.roles a.server channel a.overrides .administrator o ∧
    .administrator ∈ o.allow

/-! ## Lemmas -/

theorem decides_of_lastForUser {member : Member} {roles : List Role} {server : Server}
    {channel : Channel} {overrides : List Override} {p : Permission} {o : Override}
    (h : LastForUser channel overrides member.userId p o) :
    Decides member roles server channel overrides p o := by
  obtain ⟨before, after, rfl, hchannel, htarget, hmentions, hlast⟩ := h
  refine ⟨⟨.user, before.length⟩, ⟨by simp, hchannel, ?_, hmentions⟩, ?_⟩
  · rw [htarget]
    exact .user
  · rintro ⟨tier, place⟩ o' h' (habove | ⟨rfl, hlater⟩)
    · cases habove
    · -- a later override for the user is one of `after`, where none mentions `p`
      have hlt : before.length < place := hlater
      obtain ⟨k, rfl⟩ : ∃ k, place = before.length + (k + 1) :=
        ⟨place - before.length - 1, by omega⟩
      have hget : (before ++ o :: after)[before.length + (k + 1)]? = some o' := h'.listed
      rw [List.getElem?_append_right (by omega), Nat.add_sub_cancel_left,
        List.getElem?_cons_succ] at hget
      exact hlast o' (List.mem_of_getElem? hget) h'.channel h'.concerns.eq_user h'.mentions

theorem mem_channelPermissions_administrator_iff (a : Actor) (c : Channel)
    (h : ¬ (a.member.userId = a.server.ownerId ∨
      InUnion a.member a.roles a.server .administrator)) :
    .administrator ∈ a.channelPermissions c ↔ a.Raised c := by
  constructor
  · intro hmem
    by_cases hs : ∃ s o, Bears a.member a.roles a.server c a.overrides .administrator s o
    · obtain ⟨o, ho⟩ := exists_decides hs
      exact ⟨o, ho, (mem_resolve_of_decides h ho).1 hmem⟩
    · have hsilent := mem_resolve_of_silent h fun s o hb => hs ⟨s, o, hb⟩
      exact absurd (Or.inr (hsilent.1 hmem)) h
  · rintro ⟨o, ho, hallow⟩
    exact (mem_resolve_of_decides h ho).2 hallow

/-! ## The gate -/

/-- **A user's denial holds at the gate, short of an administrator.** Whatever else the
channel allows, the gate answers that the permission is missing, unless an override makes
the actor an administrator in the channel; then the gate lets the actor pass. -/
theorem authorize_of_user_denial (a : Actor) (c : Channel) (p : Permission) (o : Override)
    (howner : a.member.userId ≠ a.server.ownerId)
    (hmember : a.member.serverId = a.server.id) (hchannel : c.serverId = a.server.id)
    (hadmin : ¬ InUnion a.member a.roles a.server .administrator)
    (hlast : LastForUser c a.overrides a.member.userId p o) (hdenied : ¬ p ∈ o.allow) :
    (¬ a.Raised c → a.authorize (some c) {p} = .error (.permission (.missing {p}))) ∧
    (a.Raised c → a.authorize (some c) {p} = .ok (a.channelPermissions c)) := by
  have hnot : ¬ (a.member.userId = a.server.ownerId ∨
      InUnion a.member a.roles a.server .administrator) := not_or.2 ⟨howner, hadmin⟩
  have hlocal : ¬ a.Foreign (some c) := by
    rintro (hf | ⟨c', hc', hf⟩)
    · exact hf hmember
    · cases hc'
      exact hf hchannel
  have hbit : ¬ p ∈ a.channelPermissions c := fun hp =>
    hdenied ((mem_resolve_of_decides hnot (decides_of_lastForUser hlast)).1 hp)
  have hmay : a.May (some c) p ↔ a.Raised c := by
    rw [← mem_channelPermissions_administrator_iff a c hnot]
    exact ⟨fun h => h.resolve_right hbit, Or.inl⟩
  rw [a.authorize_single (some c) p hlocal]
  exact ⟨fun h => if_neg (mt hmay.1 h), fun h => if_pos (hmay.2 h)⟩

/-! ## The member of a plain server -/

/-- The member, where these overrides are in force. -/
def plainActor (overrides : List Override) : Actor :=
  ⟨plainServer, plainMember, plainRoles, overrides⟩

theorem lastForUser_mute (before : List Override) :
    LastForUser plainChannel (before ++ [mute]) ⟨3⟩ .sendMessages mute :=
  ⟨before, [], rfl, rfl, rfl, Or.inr ((Mask.mem_single _ _).2 rfl), fun _ h => nomatch h⟩

/-- Where everyone may send messages, the muted member may not. -/
theorem authorize_muted :
    LastForUser plainChannel [openTo .sendMessages, mute] ⟨3⟩ .sendMessages mute ∧
    ¬ .sendMessages ∈ mute.allow ∧ ¬ (plainActor [openTo .sendMessages, mute]).Raised plainChannel ∧
    (plainActor [openTo .sendMessages, mute]).authorize (some plainChannel) {.sendMessages} =
      .error (.permission (.missing {.sendMessages})) := by
  have hlast := lastForUser_mute [openTo .sendMessages]
  have hadmin := (not_or.1 plainMember_not_all).2
  have hallow : ¬ .sendMessages ∈ mute.allow := Mask.not_mem_empty _
  have hraised : ¬ (plainActor [openTo .sendMessages, mute]).Raised plainChannel := by
    rw [← mem_channelPermissions_administrator_iff _ _ (not_or.2 ⟨by decide, hadmin⟩)]
    decide
  refine ⟨hlast, hallow, hraised, ?_⟩
  exact (authorize_of_user_denial _ plainChannel .sendMessages mute (by decide) rfl rfl hadmin
    hlast hallow).1 hraised

/-- Where everyone is an administrator, the denial for a user does not hold. -/
theorem user_denial_passed_by_administrator :
    ¬ ∀ (a : Actor) (c : Channel) (p : Permission) (o : Override),
      a.member.userId ≠ a.server.ownerId → a.member.serverId = a.server.id →
      c.serverId = a.server.id → ¬ InUnion a.member a.roles a.server .administrator →
      p ≠ .administrator → LastForUser c a.overrides a.member.userId p o → p ∈ o.deny →
      ¬ p ∈ o.allow → a.authorize (some c) {p} = .error (.permission (.missing {p})) := by
  intro h
  have hdenied := h (plainActor [openTo .administrator, mute]) plainChannel
    .sendMessages mute (by decide) rfl rfl (not_or.1 plainMember_not_all).2 (by decide)
    (lastForUser_mute [openTo .administrator]) ((Mask.mem_single _ _).2 rfl)
    (Mask.not_mem_empty _)
  have hlocal : ¬ (plainActor [openTo .administrator, mute]).Foreign (some plainChannel) := by
    rintro (hf | ⟨c, hc, hf⟩)
    · exact hf rfl
    · cases hc
      exact hf rfl
  rw [Actor.authorize_single _ _ _ hlocal, if_pos (by decide)] at hdenied
  cases hdenied

end Turnstile

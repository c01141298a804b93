import Turnstile.Guard

/-!
# The permission gate

When an actor is let through for one permission: member and channel are of the actor's
server, and the permissions that count there hold the one asked for, or the administrator's.

    a.Foreign c → a.authorize c m = .error (.permission .notAMember)     (authorize_of_foreign)
    ¬ a.Foreign c → a.authorize c {p} =
      if a.May c p then .ok (a.effective c)
      else .error (.permission (.missing {p}))                           (authorize_single)
-/

namespace Turnstile

namespace Actor

/-- The permissions that count: those in the channel if the action takes place in one. -/
def effective (a : Actor) : Option Channel → Mask
  | some c => resolve a.member a.roles a.server (some c) a.overrides
  | none => resolve a.member a.roles a.server none []

/-- Whether the member, or the channel, is of another server. -/
def Foreign (a : Actor) (channel : Option Channel) : Prop :=
  a.member.serverId ≠ a.server.id ∨ ∃ c ∈ channel, c.serverId ≠ a.server.id

def May (a : Actor) (channel : Option Channel) (p : Permission) : Prop :=
  .administrator ∈ a.effective channel ∨ p ∈ a.effective channel

instance (a : Actor) (channel : Option Channel) (p : Permission) : Decidable (a.May channel p) :=
  inferInstanceAs (Decidable (_ ∨ _))

end Actor

/-! ## Lemmas -/

namespace Actor

variable (a : Actor) (channel : Option Channel)

theorem serverPermissions_eq : a.serverPermissions = a.effective none := rfl

theorem channelPermissions_eq (c : Channel) : a.channelPermissions c = a.effective (some c) := rfl

theorem authorize_of_foreign (required : Mask) (h : a.Foreign channel) :
    a.authorize channel required = .error (.permission .notAMember) := by
  unfold authorize
  split
  · rfl
  · next hm =>
    rcases h with h | ⟨c, hc, hs⟩
    · exact absurd h hm
    · cases hc
      exact if_pos (bne_iff_ne.2 hs)

theorem authorize_single (p : Permission) (h : ¬ a.Foreign channel) :
    a.authorize channel {p} =
      if a.May channel p then .ok (a.effective channel)
      else .error (.permission (.missing {p})) := by
  have hm : ¬ a.member.serverId ≠ a.server.id := fun hm => h (Or.inl hm)
  have hc : ¬ (channel.any fun c => c.serverId != a.server.id) = true := by
    cases channel with
    | none => exact Bool.false_ne_true
    | some c => exact fun hc => h (Or.inr ⟨c, rfl, bne_iff_ne.1 hc⟩)
  have hauth : a.authorize channel {p} =
      ((requirePermission (a.effective channel) {p}).mapError .permission).map
        fun _ => a.effective channel := by
    unfold authorize
    rw [if_neg hm, if_neg hc]
    cases channel with
    | none =>
      rw [a.serverPermissions_eq]
      dsimp only
      cases requirePermission (a.effective none) {p} <;> rfl
    | some c =>
      dsimp only
      rw [a.channelPermissions_eq]
      cases requirePermission (a.effective (some c)) {p} <;> rfl
  rw [hauth, requirePermission_single]
  by_cases hp : .administrator ∈ a.effective channel ∨ p ∈ a.effective channel
  · rw [if_pos hp, if_pos (show a.May channel p from hp)]
    rfl
  · rw [if_neg hp, if_neg (show ¬ a.May channel p from hp)]
    rfl

end Actor

end Turnstile

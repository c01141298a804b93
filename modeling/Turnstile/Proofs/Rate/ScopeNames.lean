import Turnstile.Proofs.Address.Origins
import Turnstile.Rate.Limiter

/-!
# Names of scopes

A key is read from its end: what comes after the last colon is the action, or the user where
slowmode is counted; what comes before it ends in the identifier of a user or a channel, or
in an origin. Identifiers have hyphens, the names of actions and origins have none, and what
follows the letter `p` of `ip` is the origin. So a key tells its scope, and even its key
space, whatever colons that has.

    countingKey k s.name = countingKey k' s'.name only if k = k' and s = s'   (countingKey_inj)
    limiters count two subjects under one key just if they have one key
    space and the subjects count as one                                           (key_eq_iff)
-/

namespace Turnstile

open Text

theorem Action.name_inj {a b : Action} (h : a.name.toList = b.name.toList) : a = b := by
  have hname := congrArg ofName? (String.toList_inj.1 h)
  rw [ofName?_name, ofName?_name] at hname
  exact Option.some.inj hname

theorem Action.colon_not_mem_name (a : Action) : ':' ∉ a.name.toList := by
  cases a <;> decide

theorem Action.hyphen_not_mem_name (a : Action) : '-' ∉ a.name.toList := by
  cases a <;> decide

theorem Uuid.hyphen_mem_write (u : Uuid) : '-' ∈ u.write := by simp [write]

theorem Uuid.colon_not_mem_write (u : Uuid) : ':' ∉ u.write := u.not_mem_write rfl (by decide)

namespace Scope

def kind : Scope → String
  | .user .. => "user"
  | .channel .. => "channel"
  | .origin .. => "ip"
  | .slowmode .. => "slowmode"

/-- The name between its kind and its last colon. -/
def middle : Scope → List Char
  | .user userId _ => userId.write
  | .channel userId channelId _ => channelId.write ++ ':' :: userId.write
  | .origin o _ => o.write
  | .slowmode _ channelId => channelId.write

/-- The name after its last colon. -/
def tail : Scope → List Char
  | .user _ action => action.name.toList
  | .channel _ _ action => action.name.toList
  | .origin _ action => action.name.toList
  | .slowmode userId _ => userId.write

theorem toList_name (s : Scope) :
    s.name.toList = s.kind.toList ++ ':' :: s.middle ++ ':' :: s.tail := by
  cases s <;> simp [name, kind, middle, tail]

theorem colon_not_mem_tail (s : Scope) : ':' ∉ s.tail := by
  cases s with
  | user userId action => exact action.colon_not_mem_name
  | channel userId channelId action => exact action.colon_not_mem_name
  | origin o action => exact action.colon_not_mem_name
  | slowmode userId channelId => exact userId.colon_not_mem_write

/-! ## Keys -/

/-- The key of a scope up to its last colon. -/
def keyFront (keySpace : String) (s : Scope) : List Char :=
  keySpace.toList ++ ':' :: (s.kind.toList ++ ':' :: s.middle)

theorem toList_countingKey (keySpace : String) (s : Scope) :
    (countingKey keySpace s.name).toList = s.keyFront keySpace ++ ':' :: s.tail := by
  simp [countingKey, keyFront, toList_name]

theorem of_write {x y : List Char} {u v : Uuid} (h : x ++ ':' :: u.write = y ++ ':' :: v.write) :
    x = y ∧ u = v := by
  obtain ⟨hxy, hwrite⟩ := last_separator u.colon_not_mem_write v.colon_not_mem_write h
  exact ⟨hxy, Uuid.write_inj hwrite⟩

theorem of_kind {keySpace keySpace' : String} {kind : List Char}
    (h : keySpace.toList ++ kind = keySpace'.toList ++ kind) : keySpace = keySpace' :=
  String.toList_inj.1 (List.append_cancel_right h)

section
variable {k k' : String} {userId userId' channelId channelId' : Uuid} {o o' : Origin}
  {action action' : Action}

theorem keyFront_user : (user userId action).keyFront k =
    (k.toList ++ [':', 'u', 's', 'e', 'r']) ++ ':' :: userId.write := by
  simp [keyFront, kind, middle]

theorem keyFront_channel : (channel userId channelId action).keyFront k =
    ((k.toList ++ [':', 'c', 'h', 'a', 'n', 'n', 'e', 'l']) ++ ':' :: channelId.write) ++
      ':' :: userId.write := by
  simp [keyFront, kind, middle]

theorem keyFront_origin : (origin o action).keyFront k =
    (k.toList ++ [':', 'i']) ++ 'p' :: (':' :: o.write) := by
  simp [keyFront, kind, middle]

theorem keyFront_slowmode : (slowmode userId channelId).keyFront k =
    (k.toList ++ [':', 's', 'l', 'o', 'w', 'm', 'o', 'd', 'e']) ++ ':' :: channelId.write := by
  simp [keyFront, kind, middle]

/-! ### Keys of one kind -/

theorem of_user (h : (user userId action).keyFront k = (user userId' action').keyFront k') :
    k = k' ∧ userId = userId' := by
  rw [keyFront_user, keyFront_user] at h
  obtain ⟨hkind, huser⟩ := of_write h
  exact ⟨of_kind hkind, huser⟩

theorem of_channel (h : (channel userId channelId action).keyFront k =
    (channel userId' channelId' action').keyFront k') :
    k = k' ∧ channelId = channelId' ∧ userId = userId' := by
  rw [keyFront_channel, keyFront_channel] at h
  obtain ⟨hrest, huser⟩ := of_write h
  obtain ⟨hkind, hchannel⟩ := of_write hrest
  exact ⟨of_kind hkind, hchannel, huser⟩

theorem of_slowmode (h : (slowmode userId channelId).keyFront k =
    (slowmode userId' channelId').keyFront k') : k = k' ∧ channelId = channelId' := by
  rw [keyFront_slowmode, keyFront_slowmode] at h
  obtain ⟨hkind, hchannel⟩ := of_write h
  exact ⟨of_kind hkind, hchannel⟩

/-- What follows the last `p` is the origin. -/
theorem of_origin (h : (origin o action).keyFront k = (origin o' action').keyFront k') :
    k = k' ∧ o = o' := by
  have hp : ∀ o : Origin, 'p' ∉ ':' :: o.write := fun o => by
    simp [o.not_mem_write (c := 'p') rfl rfl (by decide)]
  rw [keyFront_origin, keyFront_origin] at h
  obtain ⟨hkind, hwrite⟩ := last_separator (hp o) (hp o') h
  exact ⟨of_kind hkind, Origin.write_inj (List.cons.inj hwrite).2⟩

/-! ### Keys of two kinds -/

/-- No name of an action is an identifier. -/
theorem name_ne_write (action : Action) (u : Uuid) : action.name.toList ≠ u.write := by
  intro h
  exact action.hyphen_not_mem_name (h ▸ u.hyphen_mem_write)

/-- One of them ends in the letters of `user`, the other in an identifier. -/
theorem user_ne_channel : (user userId action).keyFront k ≠
    (channel userId' channelId' action').keyFront k' := by
  intro h
  rw [keyFront_user, keyFront_channel] at h
  refine not_both_ends (c := 'u') (d := '-') (of_write h).1 ?_ ?_ ?_ ?_
  · simp
  · simp [channelId'.not_mem_write (c := 'u') rfl (by decide)]
  · simp [channelId'.hyphen_mem_write]
  · simp

/-- An origin has no hyphens, and an identifier has no letter `p` before it. -/
theorem write_ne_origin {x y : List Char} {u : Uuid} :
    x ++ ':' :: u.write ≠ y ++ 'p' :: (':' :: o.write) := by
  intro h
  refine not_both_ends (c := '-') (d := 'p') h ?_ ?_ ?_ ?_
  · simp [u.hyphen_mem_write]
  · simp [o.not_mem_write (c := '-') rfl rfl (by decide)]
  · simp
  · simp [u.not_mem_write (c := 'p') rfl (by decide)]

theorem user_ne_origin :
    (user userId action).keyFront k ≠ (origin o' action').keyFront k' := by
  rw [keyFront_user, keyFront_origin]
  exact write_ne_origin

theorem channel_ne_origin :
    (channel userId channelId action).keyFront k ≠ (origin o' action').keyFront k' := by
  rw [keyFront_channel, keyFront_origin]
  exact write_ne_origin

end

/-- **Keys tell their scopes.** Two keys are the same only if they are of one scope in one key
space. -/
theorem countingKey_inj {k k' : String} {s s' : Scope}
    (h : countingKey k s.name = countingKey k' s'.name) : k = k' ∧ s = s' := by
  have hlist := congrArg String.toList h
  rw [toList_countingKey, toList_countingKey] at hlist
  obtain ⟨hfront, htail⟩ := last_separator s.colon_not_mem_tail s'.colon_not_mem_tail hlist
  cases s with
  | user userId action =>
    cases s' with
    | user userId' action' =>
      obtain ⟨rfl, rfl⟩ := of_user hfront
      exact ⟨rfl, by rw [Action.name_inj htail]⟩
    | channel => exact absurd hfront user_ne_channel
    | origin => exact absurd hfront user_ne_origin
    | slowmode userId' => exact absurd htail (name_ne_write action userId')
  | channel userId channelId action =>
    cases s' with
    | user => exact absurd hfront.symm user_ne_channel
    | channel userId' channelId' action' =>
      obtain ⟨rfl, rfl, rfl⟩ := of_channel hfront
      exact ⟨rfl, by rw [Action.name_inj htail]⟩
    | origin => exact absurd hfront channel_ne_origin
    | slowmode userId' => exact absurd htail (name_ne_write action userId')
  | origin o action =>
    cases s' with
    | user => exact absurd hfront.symm user_ne_origin
    | channel => exact absurd hfront.symm channel_ne_origin
    | origin o' action' =>
      obtain ⟨rfl, rfl⟩ := of_origin hfront
      exact ⟨rfl, by rw [Action.name_inj htail]⟩
    | slowmode userId' => exact absurd htail (name_ne_write action userId')
  | slowmode userId channelId =>
    cases s' with
    | user _ action' => exact absurd htail.symm (name_ne_write action' userId)
    | channel _ _ action' => exact absurd htail.symm (name_ne_write action' userId)
    | origin _ action' => exact absurd htail.symm (name_ne_write action' userId)
    | slowmode userId' channelId' =>
      obtain ⟨rfl, rfl⟩ := of_slowmode hfront
      exact ⟨rfl, by rw [Uuid.write_inj htail]⟩

end Scope

/-! ## Subjects -/

/-- What a request is counted against, as the caller of a limiter knows it. -/
inductive Subject where
  | user (userId : Uuid) (action : Action)
  | channel (userId channelId : Uuid) (action : Action)
  | address (address : Address) (action : Action)
  | slowmode (userId channelId : Uuid)

namespace Subject

def scope : Subject → Scope
  | .user userId action => .user userId action
  | .channel userId channelId action => .channel userId channelId action
  | .address a action => .ofAddress a action
  | .slowmode userId channelId => .slowmode userId channelId

/-- Whether two subjects are to be counted as one: they are of one kind, with the same
identifiers and the same action, or with addresses that share their origin. -/
inductive CountsAs : Subject → Subject → Prop
  | user (userId : Uuid) (action : Action) : CountsAs (.user userId action) (.user userId action)
  | channel (userId channelId : Uuid) (action : Action) :
      CountsAs (.channel userId channelId action) (.channel userId channelId action)
  | address {a b : Address} (action : Action) : a.SharesOrigin b →
      CountsAs (.address a action) (.address b action)
  | slowmode (userId channelId : Uuid) :
      CountsAs (.slowmode userId channelId) (.slowmode userId channelId)

theorem CountsAs.of_scope_eq {x y : Subject} (h : x.scope = y.scope) : x.CountsAs y := by
  cases x with
  | user userId action =>
    cases y with
    | user => cases h; exact .user userId action
    | channel | address | slowmode => cases h
  | channel userId channelId action =>
    cases y with
    | channel => cases h; exact .channel userId channelId action
    | user | address | slowmode => cases h
  | address a action =>
    cases y with
    | address b action' =>
      obtain ⟨horigin, rfl⟩ := Scope.origin.inj h
      exact .address action ((a.origin_eq_iff b).1 horigin)
    | user | channel | slowmode => cases h
  | slowmode userId channelId =>
    cases y with
    | slowmode => cases h; exact .slowmode userId channelId
    | user | channel | address => cases h

theorem CountsAs.scope_eq {x y : Subject} (h : x.CountsAs y) : x.scope = y.scope := by
  cases h with
  | user | channel | slowmode => rfl
  | address action hshares =>
    exact congrArg (Scope.origin · action) ((Address.origin_eq_iff _ _).2 hshares)

end Subject

/-- **No two counters have one key.** Of all limiters, in whatever key spaces, and all that they
may count, two keys are the same just if the key spaces are and the subjects count as one. For
addresses that is to say that their origins have one text. -/
theorem Limiter.key_eq_iff :
    (∀ (l l' : Limiter) (x y : Subject), l.key x.scope.name = l'.key y.scope.name ↔
      l.settings.keySpace = l'.settings.keySpace ∧ x.CountsAs y) ∧
    ∀ a b : Address, a.origin.text = b.origin.text ↔ a.SharesOrigin b := by
  constructor
  · intro l l' x y
    constructor
    · intro h
      obtain ⟨hspace, hscope⟩ := Scope.countingKey_inj h
      exact ⟨hspace, .of_scope_eq hscope⟩
    · rintro ⟨hspace, hcounts⟩
      rw [key, key, hspace, hcounts.scope_eq]
  · intro a b
    rw [← a.origin_eq_iff b]
    exact ⟨Origin.text_inj, congrArg Origin.text⟩

end Turnstile

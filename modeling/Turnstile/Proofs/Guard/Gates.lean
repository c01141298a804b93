import Turnstile.Proofs.Dialogue.Course
import Turnstile.Proofs.Guard.Permitted
import Turnstile.Proofs.Permission.Precedence
import Turnstile.Store.Rehearsed

/-!
# The gates of an action

What the guard does, said without a program: each attempt has a list of gates, each gate
asks the store so much and ends in a denial or in none, and the first denial is the answer.
The guard is the list, whatever the store replies.

    e.gates limits ceilings     the gates of an attempt, each action with the limit set for it
    hold answer s (g.handle e) = ⟨r, xs, t⟩ ↔
      Answered answer s xs t ∧ Outcome g.limiter (the gates of e) xs r     (hold_handle_iff)

Exchanges are the calls to the store with its replies; `xs` holds all of them, so a gate
that is not reached has asked nothing.
-/

namespace Turnstile

open Dialogue

/-! ## Gates -/

/-- Calls to a store, each with its reply. -/
abbrev Exchanges := List (StoreCall × StoreAnswer)

/-- Whether slowmode applies: the channel has an interval, and the actor does not manage its
messages. -/
def Actor.Slowed (a : Actor) (c : Channel) : Prop :=
  0 < c.slowmodeSecs ∧ ¬ a.May (some c) .manageMessages

namespace Limiter

/-- The name of a scope in the key space that is set. -/
def keyOf (l : Limiter) (scope : Scope) : String := l.settings.keySpace ++ ":" ++ scope.name

/-- The call that counts one more in a scope, in the window of a limit. -/
def tally (l : Limiter) (scope : Scope) (limit : Limit) : StoreCall :=
  .increment (l.keyOf scope) limit.window

/-- The call that looks for the last message of an actor in a channel. -/
def seek (l : Limiter) (a : Actor) (c : Channel) : StoreCall :=
  .read (l.keyOf (.slowmode a.member.userId c.id))

/-- The call that notes a message of an actor in a channel, for as long as the interval. -/
def mark (l : Limiter) (a : Actor) (c : Channel) : StoreCall :=
  .increment (l.keyOf (.slowmode a.member.userId c.id)) (.ofSecs c.slowmodeSecs.toUInt64)

end Limiter

def Limit.tooMany (limit : Limit) : AccessDenial :=
  .quota (.tooMany limit.requests limit.window.secs limit.window.secs)

def Channel.tooSoon (c : Channel) : AccessDenial :=
  .quota (.slowmode c.slowmodeSecs.toUInt64 c.slowmodeSecs.toUInt64)

inductive Gate where
  | permission (actor : Actor) (channel : Option Channel) (needed : Permission)
  /-- One more in a scope, against a limit. -/
  | rate (scope : Scope) (limit : Limit)
  | slowmode (actor : Actor) (channel : Channel)
  /-- A ceiling, with what it says to the amount at hand. -/
  | ceiling (verdict : Except QuotaDenial Unit)

/-- `gate.Meets l xs d`: at the gate the store is asked and replies `xs`, and the gate ends
in the denial `d`, or in none. -/
inductive Gate.Meets (l : Limiter) : Gate → Exchanges → Option AccessDenial → Prop
  | foreign {a c p} : a.Foreign c →
      Meets l (.permission a c p) [] (some (.permission .notAMember))
  | missing {a c p} : ¬ a.Foreign c → ¬ a.May c p →
      Meets l (.permission a c p) [] (some (.permission (.missing {p})))
  | permitted {a c p} : ¬ a.Foreign c → a.May c p → Meets l (.permission a c p) [] none
  | uncounted {scope limit} : l.settings.enabled = false → Meets l (.rate scope limit) [] none
  | within {scope limit} {count : Int64} : l.settings.enabled = true →
      count.toInt ≤ limit.requests.toNat →
      Meets l (.rate scope limit) [(l.tally scope limit, .ok count)] none
  | beyond {scope limit} {count : Int64} : l.settings.enabled = true →
      limit.requests.toNat < count.toInt →
      Meets l (.rate scope limit) [(l.tally scope limit, .ok count)] (some limit.tooMany)
  /-- A store that fails lets requests through. -/
  | unknown {scope limit} {fault : StoreFault} : l.settings.enabled = true →
      Meets l (.rate scope limit) [(l.tally scope limit, .error fault)] none
  | free {a c} : ¬ a.Slowed c → Meets l (.slowmode a c) [] none
  | marked {a c} {count : Int64} : a.Slowed c →
      Meets l (.slowmode a c) [(l.seek a c, .ok count)] (some c.tooSoon)
  | unread {a c} {fault : StoreFault} : a.Slowed c → fault ≠ .notFound →
      Meets l (.slowmode a c) [(l.seek a c, .error fault)] none
  | first {a c} {count : Int64} : a.Slowed c → count.toInt ≤ 1 →
      Meets l (.slowmode a c) [(l.seek a c, .error .notFound), (l.mark a c, .ok count)] none
  /-- Another message was noted after this one looked. -/
  | late {a c} {count : Int64} : a.Slowed c → 1 < count.toInt →
      Meets l (.slowmode a c) [(l.seek a c, .error .notFound), (l.mark a c, .ok count)]
        (some c.tooSoon)
  | unmarked {a c} {fault : StoreFault} : a.Slowed c →
      Meets l (.slowmode a c) [(l.seek a c, .error .notFound), (l.mark a c, .error fault)] none
  | kept : Meets l (.ceiling (.ok ())) [] none
  | exceeded {d} : Meets l (.ceiling (.error d)) [] (some (.quota d))

/-- `Outcome l gates xs r`: the store is asked by the gates in turn and replies `xs`, up to
the first denial; that is `r`, or success if no gate denies. -/
inductive Outcome (l : Limiter) : List Gate → Exchanges → Except AccessDenial Unit → Prop
  | passed : Outcome l [] [] (.ok ())
  | denied {gate gates xs d} : gate.Meets l xs (some d) → Outcome l (gate :: gates) xs (.error d)
  | next {gate gates xs ys r} : gate.Meets l xs none → Outcome l gates ys r →
      Outcome l (gate :: gates) (xs ++ ys) r

/-! ## Attempts -/

/-- What someone sets out to do. -/
inductive Attempt where
  | sendMessage (actor : Actor) (channel : Channel) (content : String)
  | editMessage (actor : Actor) (channel : Channel) (content : String)
  | addReaction (actor : Actor) (channel : Channel)
  | upload (actor : Actor) (channel : Channel) (bytes : UInt64) (inUse : StorageUse)
  | createInvite (actor : Actor)
  | createServer (userId : Uuid) (serversOwned : UInt64)
  | attemptAuth (address : Address)
  | callApi (userId : Uuid)

def Guard.handle (g : Guard) : Attempt → Access Unit
  | .sendMessage a c content => g.sendMessage a c content
  | .editMessage a c content => g.editMessage a c content
  | .addReaction a c => g.addReaction a c
  | .upload a c bytes inUse => g.upload a c bytes inUse
  | .createInvite a => g.createInvite a
  | .createServer userId serversOwned => g.createServer userId serversOwned
  | .attemptAuth address => g.attemptAuth address
  | .callApi userId => g.callApi userId

/-- The gates of an attempt, in order, with the limit that is set for what it counts. -/
def Attempt.gates (limits : Policies) (ceilings : Ceilings) : Attempt → List Gate
  | .sendMessage a c content =>
    [.permission a (some c) .sendMessages,
     .rate (.channel a.member.userId c.id .messageSend) limits.messageSend,
     .slowmode a c, .ceiling (ceilings.checkLength content)]
  | .editMessage a c content =>
    [.permission a (some c) .sendMessages,
     .rate (.user a.member.userId .messageEdit) limits.messageEdit,
     .ceiling (ceilings.checkLength content)]
  | .addReaction a c =>
    [.permission a (some c) .addReactions,
     .rate (.user a.member.userId .reaction) limits.reaction]
  | .upload a c bytes inUse =>
    [.permission a (some c) .attachFiles,
     .rate (.user a.member.userId .upload) limits.upload,
     .ceiling (ceilings.checkFileSize bytes),
     .ceiling (ceilings.checkUserStorage inUse.userBytes bytes),
     .ceiling (ceilings.checkServerStorage inUse.serverBytes bytes)]
  | .createInvite a =>
    [.permission a none .createInvite,
     .rate (.user a.member.userId .inviteCreate) limits.inviteCreate]
  | .createServer userId serversOwned =>
    [.rate (.user userId .serverCreate) limits.serverCreate,
     .ceiling (ceilings.checkCount .serversOwned serversOwned)]
  | .attemptAuth address => [.rate (.origin address.origin .auth) limits.auth]
  | .callApi userId => [.rate (.user userId .api) limits.api]

/-! ## Lemmas -/

theorem outcome_nil_iff (l : Limiter) (zs : Exchanges) (r : Except AccessDenial Unit) :
    Outcome l [] zs r ↔ zs = [] ∧ r = .ok () := by
  constructor
  · rintro ⟨⟩
    exact ⟨rfl, rfl⟩
  · rintro ⟨rfl, rfl⟩
    exact .passed

theorem outcome_cons_iff (l : Limiter) (gate : Gate) (gates : List Gate) (zs : Exchanges)
    (r : Except AccessDenial Unit) :
    Outcome l (gate :: gates) zs r ↔
      (∃ d, r = .error d ∧ gate.Meets l zs (some d)) ∨
      ∃ xs ys, zs = xs ++ ys ∧ gate.Meets l xs none ∧ Outcome l gates ys r := by
  constructor
  · intro h
    cases h with
    | denied hd => exact Or.inl ⟨_, rfl, hd⟩
    | next hp ho => exact Or.inr ⟨_, _, rfl, hp, ho⟩
  · rintro (⟨d, rfl, hd⟩ | ⟨xs, ys, rfl, hp, ho⟩)
    · exact .denied hd
    · exact .next hp ho

namespace Access

variable {α β : Type}

theorem run_gate (e : Except AccessDenial α) : (gate e).run = .done e := rfl

theorem course_bind_iff (x : Access α) (f : α → Access β) (zs : Exchanges)
    (r : Except AccessDenial β) :
    (x >>= f).run.Course zs r ↔
      (∃ d, r = .error d ∧ x.run.Course zs (.error d)) ∨
      ∃ xs a ys, zs = xs ++ ys ∧ x.run.Course xs (.ok a) ∧ (f a).run.Course ys r := by
  rw [ExceptT.run_bind, Dialogue.course_bind_iff]
  constructor
  · rintro ⟨xs, e, ys, rfl, hx, hf⟩
    cases e with
    | error d =>
      obtain ⟨rfl, rfl⟩ := (course_done_iff _ _ _).1 hf
      exact Or.inl ⟨d, rfl, by rwa [List.append_nil]⟩
    | ok a => exact Or.inr ⟨xs, a, ys, rfl, hx, hf⟩
  · rintro (⟨d, rfl, hx⟩ | ⟨xs, a, ys, rfl, hx, hf⟩)
    · exact ⟨zs, .error d, [], (List.append_nil zs).symm, hx, .done _⟩
    · exact ⟨xs, .ok a, ys, rfl, hx, hf⟩

/-- A computation does what a gate says, and gives `v` when it lets pass. -/
def Keeps (l : Limiter) (gate : Gate) (x : Access α) (v : α) : Prop :=
  ∀ xs r, x.run.Course xs r ↔
    (∃ d, r = .error d ∧ gate.Meets l xs (some d)) ∨ (r = .ok v ∧ gate.Meets l xs none)

/-- A computation does what a list of gates says. -/
def KeepsAll (l : Limiter) (gates : List Gate) (x : Access Unit) : Prop :=
  ∀ zs r, x.run.Course zs r ↔ Outcome l gates zs r

theorem keepsAll_bind {l : Limiter} {gate : Gate} {gates : List Gate} {x : Access α} {v : α}
    {f : α → Access Unit} (hx : Keeps l gate x v) (hf : KeepsAll l gates (f v)) :
    KeepsAll l (gate :: gates) (x >>= f) := by
  intro zs r
  rw [course_bind_iff, outcome_cons_iff]
  constructor
  · rintro (⟨d, rfl, h⟩ | ⟨xs, a, ys, rfl, h, hr⟩)
    · rcases (hx _ _).1 h with ⟨d', he, hd⟩ | ⟨he, -⟩
      · cases he
        exact Or.inl ⟨d, rfl, hd⟩
      · cases he
    · rcases (hx _ _).1 h with ⟨d', he, -⟩ | ⟨he, hp⟩
      · cases he
      · cases he
        exact Or.inr ⟨xs, ys, rfl, hp, (hf _ _).1 hr⟩
  · rintro (⟨d, rfl, hd⟩ | ⟨xs, ys, rfl, hp, ho⟩)
    · exact Or.inl ⟨d, rfl, (hx _ _).2 (Or.inl ⟨d, rfl, hd⟩)⟩
    · exact Or.inr ⟨xs, v, ys, rfl, (hx _ _).2 (Or.inr ⟨rfl, hp⟩), (hf _ _).2 ho⟩

theorem keepsAll_last {l : Limiter} {gate : Gate} {x : Access Unit} (hx : Keeps l gate x ()) :
    KeepsAll l [gate] x := by
  intro zs r
  rw [hx, outcome_cons_iff]
  simp only [outcome_nil_iff]
  constructor
  · rintro (h | ⟨rfl, hp⟩)
    · exact Or.inl h
    · exact Or.inr ⟨zs, [], (List.append_nil zs).symm, hp, rfl, rfl⟩
  · rintro (h | ⟨xs, ys, rfl, hp, rfl, rfl⟩)
    · exact Or.inl h
    · exact Or.inr ⟨rfl, by rwa [List.append_nil]⟩

theorem keeps_permission (l : Limiter) (a : Actor) (channel : Option Channel) (p : Permission) :
    Keeps l (.permission a channel p) (gate (a.authorize channel {p})) (a.effective channel) := by
  intro xs r
  rw [run_gate, course_done_iff]
  by_cases hf : a.Foreign channel
  · rw [a.authorize_of_foreign channel _ hf]
    constructor
    · rintro ⟨rfl, rfl⟩
      exact Or.inl ⟨_, rfl, .foreign hf⟩
    · rintro (⟨d, rfl, h⟩ | ⟨rfl, h⟩)
      · cases h with
        | foreign => exact ⟨rfl, rfl⟩
        | missing hn => exact absurd hf hn
      · cases h with
        | permitted hn => exact absurd hf hn
  · rw [a.authorize_single channel p hf]
    constructor
    · rintro ⟨rfl, rfl⟩
      split
      · next hp => exact Or.inr ⟨rfl, .permitted hf hp⟩
      · next hp => exact Or.inl ⟨_, rfl, .missing hf hp⟩
    · rintro (⟨d, rfl, h⟩ | ⟨rfl, h⟩)
      · cases h with
        | foreign h => exact absurd h hf
        | missing _ hp => exact ⟨rfl, (if_neg hp).symm⟩
      · cases h with
        | permitted _ hp => exact ⟨rfl, (if_pos hp).symm⟩

theorem keeps_ceiling (l : Limiter) (verdict : Except QuotaDenial Unit) :
    Keeps l (.ceiling verdict) (Access.quota verdict) () := by
  intro xs r
  show (Dialogue.done _).Course xs r ↔ _
  rw [course_done_iff]
  constructor
  · rintro ⟨rfl, rfl⟩
    cases verdict with
    | error d => exact Or.inl ⟨_, rfl, .exceeded⟩
    | ok u => exact Or.inr ⟨rfl, .kept⟩
  · rintro (⟨d, rfl, h⟩ | ⟨rfl, h⟩)
    · cases h with
      | exceeded => exact ⟨rfl, rfl⟩
    · cases h with
      | kept => exact ⟨rfl, rfl⟩

end Access

namespace Guard

variable (g : Guard)

variable {limit : Limit} {action : Action}

theorem run_count (hpolicy : g.limiter.policy action = limit) (scope : Scope) :
    (g.count scope action).run =
      if g.limiter.settings.enabled then
        .ask (g.limiter.tally scope limit) fun a =>
          .done ((Limiter.verdict limit a).mapError AccessDenial.quota)
      else .done (.ok ()) := by
  subst hpolicy
  show (fun r => r.mapError AccessDenial.quota) <$> g.limiter.check _ _ = _
  rw [g.limiter.check_eq]
  split <;> rfl

theorem keeps_count (hpolicy : g.limiter.policy action = limit) (scope : Scope) :
    Access.Keeps g.limiter (.rate scope limit) (g.count scope action) () := by
  intro xs r
  rw [g.run_count hpolicy]
  cases he : g.limiter.settings.enabled with
  | false =>
    have hoff : ¬ g.limiter.settings.enabled = true := by rw [he]; exact Bool.false_ne_true
    rw [if_neg Bool.false_ne_true, course_done_iff]
    constructor
    · rintro ⟨rfl, rfl⟩
      exact Or.inr ⟨rfl, .uncounted he⟩
    · rintro (⟨d, rfl, h⟩ | ⟨rfl, h⟩)
      · cases h with
        | beyond hon => exact absurd hon hoff
      · cases h with
        | uncounted => exact ⟨rfl, rfl⟩
        | within hon => exact absurd hon hoff
        | unknown hon => exact absurd hon hoff
  | true =>
    rw [if_pos rfl, course_ask_iff]
    constructor
    · rintro ⟨answer, ys, rfl, h⟩
      cases answer with
      | error fault =>
        obtain ⟨rfl, rfl⟩ := (course_done_iff _ _ _).1 h
        exact Or.inr ⟨rfl, .unknown he⟩
      | ok count =>
        obtain ⟨rfl, rfl⟩ := (course_done_iff _ _ _).1 h
        by_cases hc : count.toInt ≤ limit.requests.toNat
        · rw [Limiter.verdict_of_le hc]
          exact Or.inr ⟨rfl, .within he hc⟩
        · rw [Limiter.verdict_of_lt (Int.not_le.1 hc)]
          exact Or.inl ⟨_, rfl, .beyond he (Int.not_le.1 hc)⟩
    · rintro (⟨d, rfl, h⟩ | ⟨rfl, h⟩)
      · cases h with
        | beyond _ hc =>
          refine ⟨_, [], rfl, ?_⟩
          rw [Limiter.verdict_of_lt hc]
          exact .done _
      · cases h with
        | uncounted h => rw [he] at h; cases h
        | within _ hc =>
          refine ⟨_, [], rfl, ?_⟩
          rw [Limiter.verdict_of_le hc]
          exact .done _
        | unknown => exact ⟨_, [], rfl, .done _⟩

theorem run_slowmode (a : Actor) (c : Channel) (hsecs : 0 < c.slowmodeSecs) :
    (Access.counted (g.limiter.checkSlowmode a.userId c.id c.slowmodeSecs)).run =
      .ask (g.limiter.seek a c) fun
        | .ok _ => .done (.error c.tooSoon)
        | .error .notFound => .ask (g.limiter.mark a c) fun
          | .ok count => .done (if count.toInt ≤ 1 then .ok () else .error c.tooSoon)
          | .error _ => .done (.ok ())
        | .error _ => .done (.ok ()) := by
  show (fun r => r.mapError AccessDenial.quota) <$> g.limiter.checkSlowmode _ _ _ = _
  rw [Limiter.checkSlowmode_eq, if_neg (Int64.not_le.2 hsecs)]
  show Dialogue.ask _ _ = Dialogue.ask _ _
  congr 1
  funext answer
  match answer with
  | .ok _ => rfl
  | .error (.unavailable _) => rfl
  | .error (.timeout _) => rfl
  | .error .notFound =>
    show Dialogue.ask _ _ = Dialogue.ask _ _
    congr 1
    funext answer
    cases answer with
    | error fault => rfl
    | ok count =>
      show Dialogue.done ((Limiter.marked _ (.ok count)).mapError AccessDenial.quota) =
        Dialogue.done (ite _ _ _)
      rw [Limiter.marked]
      by_cases h : count.toInt ≤ 1
      · rw [if_neg (Int64.not_lt.2 (Int64.le_iff_toInt_le.2 h)), if_pos h]
        rfl
      · rw [if_pos (Int64.lt_iff_toInt_lt.2 (Int.not_le.1 h)), if_neg h]
        rfl

theorem run_slowmode_off (a : Actor) (c : Channel) (hsecs : ¬ 0 < c.slowmodeSecs) :
    (Access.counted (g.limiter.checkSlowmode a.userId c.id c.slowmodeSecs)).run =
      .done (.ok ()) := by
  show (fun r => r.mapError AccessDenial.quota) <$> g.limiter.checkSlowmode _ _ _ = _
  rw [Limiter.checkSlowmode_eq, if_pos (Int64.not_lt.1 hsecs)]
  rfl

/-- What the store is asked for slowmode, and what comes of it. -/
theorem course_slowmode_iff (a : Actor) (c : Channel) (hs : a.Slowed c) (xs : Exchanges)
    (r : Except AccessDenial Unit) :
    (Access.counted (g.limiter.checkSlowmode a.userId c.id c.slowmodeSecs)).run.Course xs r ↔
      (∃ d, r = .error d ∧ (Gate.slowmode a c).Meets g.limiter xs (some d)) ∨
      (r = .ok () ∧ (Gate.slowmode a c).Meets g.limiter xs none) := by
  rw [run_slowmode g a c hs.1, course_ask_iff]
  constructor
  · rintro ⟨answer, ys, rfl, h⟩
    match answer with
    | .ok _ =>
      obtain ⟨rfl, rfl⟩ := (course_done_iff _ _ _).1 h
      exact Or.inl ⟨_, rfl, .marked hs⟩
    | .error (.unavailable _) =>
      obtain ⟨rfl, rfl⟩ := (course_done_iff _ _ _).1 h
      exact Or.inr ⟨rfl, .unread hs (by simp)⟩
    | .error (.timeout _) =>
      obtain ⟨rfl, rfl⟩ := (course_done_iff _ _ _).1 h
      exact Or.inr ⟨rfl, .unread hs (by simp)⟩
    | .error .notFound =>
      obtain ⟨answer, zs, rfl, hmark⟩ := (course_ask_iff _ _ _ _).1 h
      cases answer with
      | error fault =>
        obtain ⟨rfl, rfl⟩ := (course_done_iff _ _ _).1 hmark
        exact Or.inr ⟨rfl, .unmarked hs⟩
      | ok count =>
        obtain ⟨rfl, rfl⟩ := (course_done_iff _ _ _).1 hmark
        split
        · next hc => exact Or.inr ⟨rfl, .first hs hc⟩
        · next hc => exact Or.inl ⟨_, rfl, .late hs (Int.not_le.1 hc)⟩
  · rintro (⟨d, rfl, h⟩ | ⟨rfl, h⟩)
    · cases h with
      | marked => exact ⟨_, [], rfl, .done _⟩
      | late _ hc =>
        refine ⟨_, _, rfl, .ask ?_⟩
        show (Dialogue.done (if _ then _ else _)).Course [] _
        rw [if_neg (Int.not_le.2 hc)]
        exact .done _
    · cases h with
      | free hf => exact absurd hs hf
      | @unread _ _ fault _ hfault =>
        refine ⟨_, [], rfl, ?_⟩
        cases fault with
        | notFound => exact absurd rfl hfault
        | unavailable _ => exact .done _
        | timeout _ => exact .done _
      | first _ hc =>
        refine ⟨_, _, rfl, .ask ?_⟩
        show (Dialogue.done (if _ then _ else _)).Course [] _
        rw [if_pos hc]
        exact .done _
      | unmarked => exact ⟨_, _, rfl, .ask (.done _)⟩

theorem keeps_slowmode (a : Actor) (c : Channel) :
    Access.Keeps g.limiter (.slowmode a c)
      (if (a.effective (some c)).grants {.manageMessages} then pure ()
        else Access.counted (g.limiter.checkSlowmode a.userId c.id c.slowmodeSecs)) () := by
  intro xs r
  have hgrants := Mask.grants_single_iff (a.effective (some c)) .manageMessages
  by_cases hs : a.Slowed c
  · rw [if_neg fun h => hs.2 (hgrants.1 h)]
    exact g.course_slowmode_iff a c hs xs r
  · have hrun : (if (a.effective (some c)).grants {.manageMessages} then pure ()
        else Access.counted (g.limiter.checkSlowmode a.userId c.id c.slowmodeSecs) :
          Access Unit).run = .done (.ok ()) := by
      split
      · rfl
      · next hg => exact g.run_slowmode_off a c fun hsecs => hs ⟨hsecs, fun hm => hg (hgrants.2 hm)⟩
    rw [hrun, course_done_iff]
    constructor
    · rintro ⟨rfl, rfl⟩
      exact Or.inr ⟨rfl, .free hs⟩
    · rintro (⟨d, rfl, h⟩ | ⟨rfl, h⟩)
      · cases h with
        | marked h => exact absurd h hs
        | late h => exact absurd h hs
      · cases h with
        | free => exact ⟨rfl, rfl⟩
        | unread h => exact absurd h hs
        | first h => exact absurd h hs
        | unmarked h => exact absurd h hs

/-- Sending a message with the exemption from slowmode as a step of its own. -/
theorem sendMessage_eq (a : Actor) (c : Channel) (content : String) :
    g.sendMessage a c content =
      (Access.gate (a.authorize (some c) {.sendMessages}) >>= fun held =>
        g.count (.channel a.userId c.id .messageSend) .messageSend >>= fun _ =>
        (if held.grants {.manageMessages} then pure ()
          else Access.counted (g.limiter.checkSlowmode a.userId c.id c.slowmodeSecs)) >>= fun _ =>
        Access.quota (g.ceilings.checkLength content)) := by
  unfold sendMessage
  congr 1
  funext held
  congr 1
  funext _
  split
  · rw [pure_bind]
  · rfl

/-- The guard does what the gates of an attempt say. -/
theorem keepsAll_handle (e : Attempt) :
    Access.KeepsAll g.limiter (e.gates g.limiter.settings.policies g.ceilings) (g.handle e) := by
  cases e with
  | sendMessage a c content =>
    show Access.KeepsAll _ _ (g.sendMessage a c content)
    rw [g.sendMessage_eq]
    refine Access.keepsAll_bind (Access.keeps_permission _ _ _ _) ?_
    refine Access.keepsAll_bind (g.keeps_count rfl _) ?_
    refine Access.keepsAll_bind (g.keeps_slowmode a c) ?_
    exact Access.keepsAll_last (Access.keeps_ceiling _ _)
  | editMessage a c content =>
    refine Access.keepsAll_bind (Access.keeps_permission _ _ _ _) ?_
    refine Access.keepsAll_bind (g.keeps_count rfl _) ?_
    exact Access.keepsAll_last (Access.keeps_ceiling _ _)
  | addReaction a c =>
    refine Access.keepsAll_bind (Access.keeps_permission _ _ _ _) ?_
    exact Access.keepsAll_last (g.keeps_count rfl _)
  | upload a c bytes inUse =>
    refine Access.keepsAll_bind (Access.keeps_permission _ _ _ _) ?_
    refine Access.keepsAll_bind (g.keeps_count rfl _) ?_
    refine Access.keepsAll_bind (Access.keeps_ceiling _ _) ?_
    refine Access.keepsAll_bind (Access.keeps_ceiling _ _) ?_
    exact Access.keepsAll_last (Access.keeps_ceiling _ _)
  | createInvite a =>
    refine Access.keepsAll_bind (Access.keeps_permission _ _ _ _) ?_
    exact Access.keepsAll_last (g.keeps_count rfl _)
  | createServer userId serversOwned =>
    refine Access.keepsAll_bind (g.keeps_count rfl _) ?_
    exact Access.keepsAll_last (Access.keeps_ceiling _ _)
  | attemptAuth address => exact Access.keepsAll_last (g.keeps_count rfl _)
  | callApi userId => exact Access.keepsAll_last (g.keeps_count rfl _)

end Guard

/-! ## The guard is its gates -/

/-- **The first denial decides, and only the gates up to it ask the store.** Whatever answers
the calls, an attempt ends as its gates say, after the exchanges of the gates reached. -/
theorem hold_handle_iff {σ : Type} (g : Guard) (e : Attempt)
    (answer : σ → StoreCall → StoreAnswer × σ) (s t : σ) (xs : Exchanges)
    (r : Except AccessDenial Unit) :
    hold answer s (g.handle e).run = ⟨r, xs, t⟩ ↔
      Answered answer s xs t ∧
        Outcome g.limiter (e.gates g.limiter.settings.policies g.ceilings) xs r := by
  rw [hold_eq_iff, g.keepsAll_handle e]

/-! ## A guard with a limit for each action -/

def strictPolicies : Policies where
  api := ⟨3, ⟨1, ⟨500000000, by decide⟩⟩⟩
  auth := ⟨2, .ofSecs 600⟩
  upload := ⟨4, .ofSecs 70⟩
  messageSend := ⟨7, .ofSecs 9⟩
  messageEdit := ⟨5, .ofSecs 11⟩
  reaction := ⟨6, .ofSecs 13⟩
  serverCreate := ⟨1, .ofSecs 7200⟩
  inviteCreate := ⟨8, .ofSecs 90⟩

/-- Messages of more than four characters are too long, and a server has room for 5 MB. -/
def strictGuard : Guard where
  limiter := ⟨{ keySpace := "chat", policies := strictPolicies }⟩
  ceilings := { messageLength := 4, storagePerServerMb := 5 }

/-- A channel with 30 seconds between two messages. -/
def slowChannel : Channel := ⟨⟨4⟩, ⟨1⟩, 30⟩

def plainVisitor : Actor := ⟨plainServer, plainMember, plainRoles, []⟩

/-- A message and an upload that all gates but the last let pass, a third login where two are
allowed, and a call where the store fails. -/
theorem hold_strictGuard :
    hold Rehearsal.answer ⟨[.ok 7, .ok 1], [.error .notFound]⟩
        (strictGuard.handle (.sendMessage plainVisitor slowChannel "hello")).run =
      ⟨.error (.quota (.exceeded .messageLength 0 4 5 none)),
       [(.increment ("chat:channel:00000000-0000-0000-0000-000000000004:" ++
           "00000000-0000-0000-0000-000000000003:message_send") ⟨9, 0⟩, .ok 7),
        (.read ("chat:slowmode:00000000-0000-0000-0000-000000000004:" ++
           "00000000-0000-0000-0000-000000000003"), .error .notFound),
        (.increment ("chat:slowmode:00000000-0000-0000-0000-000000000004:" ++
           "00000000-0000-0000-0000-000000000003") ⟨30, 0⟩, .ok 1)], ⟨[], []⟩⟩ ∧
    hold Rehearsal.answer ⟨[.ok 4], []⟩
        (strictGuard.handle (.upload plainVisitor slowChannel 3145728 ⟨0, 3145729⟩)).run =
      ⟨.error (.quota (.exceeded .serverStorage 4 5 7 none)),
       [(.increment "chat:user:00000000-0000-0000-0000-000000000003:upload" ⟨70, 0⟩, .ok 4)],
       ⟨[], []⟩⟩ ∧
    hold Rehearsal.answer ⟨[.ok 3], []⟩
        (strictGuard.handle (.attemptAuth (.v4 ⟨203, 0, 113, 7⟩))).run =
      ⟨.error (.quota (.tooMany 2 600 600)),
       [(.increment "chat:ip:203.0.113.7:auth" ⟨600, 0⟩, .ok 3)], ⟨[], []⟩⟩ ∧
    hold Rehearsal.answer ⟨[.error (.unavailable "down")], []⟩
        (strictGuard.handle (.callApi ⟨3⟩)).run =
      ⟨.ok (), [(.increment "chat:user:00000000-0000-0000-0000-000000000003:api"
        ⟨1, 500000000⟩, .error (.unavailable "down"))], ⟨[], []⟩⟩ := by
  have hmessage : strictGuard.limiter.keyOf (.channel ⟨3⟩ ⟨4⟩ .messageSend) =
      "chat:channel:00000000-0000-0000-0000-000000000004:" ++
        "00000000-0000-0000-0000-000000000003:message_send" := by decide +kernel
  have hmarker : strictGuard.limiter.keyOf (.slowmode ⟨3⟩ ⟨4⟩) =
      "chat:slowmode:00000000-0000-0000-0000-000000000004:" ++
        "00000000-0000-0000-0000-000000000003" := by decide +kernel
  have hupload : strictGuard.limiter.keyOf (.user ⟨3⟩ .upload) =
      "chat:user:00000000-0000-0000-0000-000000000003:upload" := by decide +kernel
  have hlogin : strictGuard.limiter.keyOf (.origin (.host ⟨203, 0, 113, 7⟩) .auth) =
      "chat:ip:203.0.113.7:auth" := by decide +kernel
  have hcall : strictGuard.limiter.keyOf (.user ⟨3⟩ .api) =
      "chat:user:00000000-0000-0000-0000-000000000003:api" := by decide +kernel
  have hlocal : ¬ plainVisitor.Foreign (some slowChannel) := by
    rintro (hmember | ⟨c, hc, hchannel⟩)
    · exact hmember rfl
    · cases hc
      exact hchannel rfl
  have hslowed : plainVisitor.Slowed slowChannel := ⟨by decide, by decide⟩
  rw [← hmessage, ← hmarker, ← hupload, ← hlogin, ← hcall]
  refine ⟨(hold_handle_iff _ _ _ _ _ _ _).2 ⟨.cons (.cons (.cons (.nil _))), ?_⟩,
    (hold_handle_iff _ _ _ _ _ _ _).2 ⟨.cons (.nil _), ?_⟩,
    (hold_handle_iff _ _ _ _ _ _ _).2 ⟨.cons (.nil _), ?_⟩,
    (hold_handle_iff _ _ _ _ _ _ _).2 ⟨.cons (.nil _), ?_⟩⟩
  · refine .next (.permitted hlocal (by decide)) ?_
    refine .next (.within rfl (by decide)) ?_
    refine .next (.first hslowed (by decide)) ?_
    exact .denied .exceeded
  · refine .next (.permitted hlocal (by decide)) ?_
    refine .next (.within rfl (by decide)) ?_
    exact .next .kept (.next .kept (.denied .exceeded))
  · exact .denied (.beyond rfl (by decide))
  · exact .next (.unknown rfl) .passed

end Turnstile

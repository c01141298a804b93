import Turnstile.Proofs.Rate.Request
import Turnstile.Proofs.Rate.ScopeNames
import Turnstile.Proofs.Store.Interleaving

/-!
# Isolation of scopes

Users, channels, addresses and slowmode are all counted in one store, under texts. Still no
call learns anything of the calls in other scopes: leave them all out, and what is left is
answered as before. Two stores agree on a key if the same can be seen under it from now on;
a call on the key is answered alike by both and keeps them in agreement, and a call on any
other key may be made of one of them alone.

    m.Agrees key now m'                          what one call keeps     (Agrees.answer, Agrees.of_ne)
    Apart l calls s now p q                      what one move keeps     (Apart.move)
    the calls of a scope without the others are answered alike           (answers_within_scope)
-/

namespace Turnstile

/-! ## Calls of a limiter -/

/-- A call of a limiter, in any scope and with any limit. -/
inductive ScopedCall where
  | request (scope : Scope) (limit : Limit) (r : Request)
  | slowmode (userId channelId : Uuid) (secs : Int64)

namespace ScopedCall

def scope : ScopedCall → Scope
  | .request scope _ _ => scope
  | .slowmode userId channelId _ => .slowmode userId channelId

/-- The call as the limiter serves it. -/
def put (l : Limiter) : ScopedCall → Counting Answer
  | .request scope limit r => r.put l scope.name limit
  | .slowmode userId channelId secs => do
    return .verdict (← l.checkSlowmode userId channelId secs)

end ScopedCall

namespace Limiter

/-- Calls one after the other, each at its instant, with what they are told. -/
def serve (l : Limiter) : Memory → List (Instant × ScopedCall) → List (ScopedCall × Answer)
  | _, [] => []
  | m, (t, c) :: rest =>
    let course := Dialogue.hold (Memory.answer t) m (c.put l)
    (c, course.result) :: l.serve course.state rest

/-- Calls about to be made, in any order and question by question. -/
def pool (l : Limiter) (m : Memory) (calls : List ScopedCall) : Pool Answer :=
  .start m (calls.map (·.put l))

/-- Whether a move is a turn of a call in the scope, or a call of another computation on its
counter. -/
def concerns (l : Limiter) (calls : List ScopedCall) (s : Scope) : Move → Bool
  | .turn i => calls[i]?.any (·.scope = s)
  | .call c => c.key = l.key s.name
  | .purge => false

/-- What is left of the moves without the other scopes. -/
def only (l : Limiter) (calls : List ScopedCall) (s : Scope) (moves : List (Instant × Move)) :
    List (Instant × Move) :=
  moves.filter fun e => l.concerns calls s e.2

theorem concerns_turn {l : Limiter} {calls : List ScopedCall} {s : Scope} {i : Nat} :
    l.concerns calls s (.turn i) = true ↔ ∃ c, calls[i]? = some c ∧ c.scope = s := by
  simp [concerns, Option.any_eq_true]

theorem concerns_call {l : Limiter} {calls : List ScopedCall} {s : Scope} {c : StoreCall} :
    l.concerns calls s (.call c) = true ↔ c.key = l.key s.name := decide_eq_true_iff

theorem key_inj {l : Limiter} {s s' : Scope} (h : l.key s.name = l.key s'.name) : s = s' :=
  (Scope.countingKey_inj h).2

end Limiter

/-! ## Questions on one key -/

namespace Dialogue

variable {Q R α β : Type}

/-- All questions of a dialogue, however it goes, are of this kind. -/
def Asks (P : Q → Prop) : Dialogue Q R α → Prop
  | .done _ => True
  | .ask q next => P q ∧ ∀ r, (next r).Asks P

theorem Asks.mono {P P' : Q → Prop} {x : Dialogue Q R α} (h : x.Asks P) (himp : ∀ q, P q → P' q) :
    x.Asks P' := by
  induction x with
  | done a => trivial
  | ask q next ih => exact ⟨himp q h.1, fun r => ih r (h.2 r)⟩

theorem Asks.bind {P : Q → Prop} {x : Dialogue Q R α} {f : α → Dialogue Q R β} (h : x.Asks P)
    (hf : ∀ a, (f a).Asks P) : (x >>= f).Asks P := by
  induction x with
  | done a => exact hf a
  | ask q next ih => exact ⟨h.1, fun r => ih r (h.2 r)⟩

end Dialogue

theorem Limiter.asks_check (l : Limiter) (scopeName : String) (limit : Limit) :
    (l.check scopeName limit).Asks (·.key = l.key scopeName) := by
  rw [check_eq]
  split
  · exact ⟨rfl, fun _ => trivial⟩
  · trivial

theorem Limiter.asks_remaining (l : Limiter) (scopeName : String) (limit : Limit) :
    (l.remaining scopeName limit).Asks (·.key = l.key scopeName) := by
  rw [remaining_eq]
  split
  · exact ⟨rfl, fun _ => trivial⟩
  · trivial

theorem Limiter.asks_checkSlowmode (l : Limiter) (userId channelId : Uuid) (secs : Int64) :
    (l.checkSlowmode userId channelId secs).Asks
      (·.key = l.key (Scope.slowmode userId channelId).name) := by
  rw [checkSlowmode_eq]
  split
  · trivial
  · refine ⟨rfl, fun a => ?_⟩
    unfold sought
    split
    · trivial
    · exact ⟨rfl, fun _ => trivial⟩
    · trivial

/-- A call asks for the counter of its scope alone. -/
theorem ScopedCall.asks_put (l : Limiter) (c : ScopedCall) :
    (c.put l).Asks (·.key = l.key c.scope.name) := by
  cases c with
  | slowmode userId channelId secs =>
    exact (l.asks_checkSlowmode userId channelId secs).bind fun _ => trivial
  | request scope limit r =>
    cases r with
    | check => exact (l.asks_check scope.name limit).bind fun _ => trivial
    | remaining => exact (l.asks_remaining scope.name limit).bind fun _ => trivial
    | budget clock =>
      have hbudget : (l.budget clock scope.name limit).Asks (·.key = l.key scope.name) :=
        (l.asks_remaining scope.name limit).bind fun _ => trivial
      exact hbudget.bind fun _ => trivial

/-! ## Stores that agree on a key -/

/-- From now on the same is to be seen under the key. -/
def Memory.Agrees (key : String) (now : Instant) (m m' : Memory) : Prop :=
  ∀ later, now ≤ later → m.live? later key = m'.live? later key

namespace Memory.Agrees

variable {key : String} {now t : Instant} {m m' : Memory}

theorem later (h : Agrees key now m m') (ht : now ≤ t) : Agrees key t m m' :=
  fun later hlater => h later (Nat.le_trans ht hlater)

/-- A call on the key. -/
theorem answer (h : Agrees key now m m') (ht : now ≤ t) {q : StoreCall} (hq : q.key = key) :
    (m.answer t q).1 = (m'.answer t q).1 ∧ Agrees key now (m.answer t q).2 (m'.answer t q).2 := by
  subst hq
  have hseen : m.live? t q.key = m'.live? t q.key := h t ht
  cases q with
  | read key =>
    refine ⟨?_, h⟩
    show m.read t key = m'.read t key
    rw [m.read_eq, m'.read_eq, show m.live? t key = m'.live? t key from hseen]
  | increment key ttl =>
    have hseen : m.live? t key = m'.live? t key := hseen
    refine ⟨?_, fun later _ => ?_⟩
    · show Except.ok (m.increment t key ttl).1 = Except.ok (m'.increment t key ttl).1
      rw [m.increment_fst, m'.increment_fst, hseen]
    · show (m.increment t key ttl).2.live? later key = (m'.increment t key ttl).2.live? later key
      rw [m.live?_increment_self, m'.live?_increment_self, hseen]

/-- A call on another key, of one store alone. -/
theorem of_ne (h : Agrees key now m m') {q : StoreCall} (hq : q.key ≠ key) :
    Agrees key now (m.answer t q).2 m' := by
  intro later hlater
  rw [m.live?_answer_of_ne t later fun ttl hcall => hq (congrArg StoreCall.key hcall)]
  exact h later hlater

/-- A purge of one store alone. -/
theorem purge (h : Agrees key now m m') (ht : now ≤ t) : Agrees key t (m.purge t).2 m' := by
  intro later hlater
  rw [m.live?_purge hlater]
  exact h later (Nat.le_trans ht hlater)

variable {α : Type} {x : Counting α}

/-- A whole dialogue about the key. -/
theorem hold (h : Agrees key now m m') (ht : now ≤ t) (hx : x.Asks (·.key = key)) :
    (x.hold (Memory.answer t) m).result = (x.hold (Memory.answer t) m').result ∧
      Agrees key now (x.hold (Memory.answer t) m).state (x.hold (Memory.answer t) m').state := by
  induction x generalizing m m' with
  | done a => exact ⟨rfl, h⟩
  | ask q next ih =>
    obtain ⟨hanswer, hnext⟩ := h.answer ht hx.1
    rw [Dialogue.hold_ask, Dialogue.hold_ask]
    rw [← hanswer]
    exact ih _ hnext (hx.2 _)

/-- A whole dialogue about other keys. -/
theorem hold_of_ne (h : Agrees key now m m') (hx : x.Asks (·.key ≠ key)) :
    Agrees key now (x.hold (Memory.answer t) m).state m' := by
  induction x generalizing m with
  | done a => exact h
  | ask q next ih =>
    rw [Dialogue.hold_ask]
    exact ih _ (h.of_ne hx.1) (hx.2 _)

end Memory.Agrees

/-! ## Calls one after the other -/

theorem serve_filter {l : Limiter} {s : Scope} {m m' : Memory}
    (h : m.Agrees (l.key s.name) 0 m') (timed : List (Instant × ScopedCall)) :
    (l.serve m timed).filter (·.1.scope = s) = l.serve m' (timed.filter (·.2.scope = s)) := by
  induction timed generalizing m m' with
  | nil => rfl
  | cons e rest ih =>
    obtain ⟨t, c⟩ := e
    by_cases hc : c.scope = s
    · subst hc
      obtain ⟨hresult, hstate⟩ := h.hold (Nat.zero_le t) (c.asks_put l)
      simp only [Limiter.serve, List.filter_cons, decide_true, if_true]
      rw [hresult, ih hstate]
    · have hother : (c.put l).Asks (·.key ≠ l.key s.name) :=
        (c.asks_put l).mono fun q hq hkey => hc (Limiter.key_inj (hq.symm.trans hkey))
      simp only [Limiter.serve, List.filter_cons, hc, decide_false]
      exact ih (h.hold_of_ne hother)

/-! ## Calls question by question -/

/-- What the whole run and the one without the other scopes keep. -/
structure Apart (l : Limiter) (calls : List ScopedCall) (s : Scope) (now : Instant)
    (p q : Pool Answer) : Prop where
  agrees : p.memory.Agrees (l.key s.name) now q.memory
  /-- Each call asks for the counter of its scope, from where it is. -/
  asks : ∀ (i : Nat) (x : Counting Answer), p.clients[i]? = some x →
    ∃ c : ScopedCall, calls[i]? = some c ∧ x.Asks (·.key = l.key c.scope.name)
  same : ∀ (i : Nat) (c : ScopedCall), calls[i]? = some c → c.scope = s →
    p.clients[i]? = q.clients[i]?

section
variable {l : Limiter} {calls : List ScopedCall} {s : Scope} {now t : Instant} {p q : Pool Answer}

theorem apart_start (m : Memory) : Apart l calls s now (l.pool m calls) (l.pool m calls) where
  agrees := fun _ _ => rfl
  asks := by
    intro i x hx
    have hx : (calls.map (·.put l))[i]? = some x := hx
    rw [List.getElem?_map, Option.map_eq_some_iff] at hx
    obtain ⟨c, hc, rfl⟩ := hx
    exact ⟨c, hc, c.asks_put l⟩
  same := fun _ _ _ _ => rfl

namespace Apart

theorem later (h : Apart l calls s now p q) (ht : now ≤ t) : Apart l calls s t p q :=
  ⟨h.agrees.later ht, h.asks, h.same⟩

/-- After a question, a call still asks for the counter of its scope alone. -/
theorem asks_ask (h : Apart l calls s now p q) {i : Nat} {c : ScopedCall}
    (hc : calls[i]? = some c) {call : StoreCall} {next : StoreAnswer → Counting Answer}
    (hnext : ∀ r, (next r).Asks (·.key = l.key c.scope.name)) :
    ∀ (j : Nat) (x : Counting Answer), (p.ask t i call next).clients[j]? = some x →
      ∃ c : ScopedCall, calls[j]? = some c ∧ x.Asks (·.key = l.key c.scope.name) := by
  intro j x hx
  have hx : (p.clients.set i (next _))[j]? = some x := hx
  by_cases hij : i = j
  · subst hij
    have hlt : i < p.clients.length := by
      have := (List.getElem?_eq_some_iff.1 hx).1
      simpa using this
    rw [List.getElem?_set_self hlt] at hx
    exact ⟨c, hc, Option.some.inj hx ▸ hnext _⟩
  · rw [List.getElem?_set_ne hij] at hx
    exact h.asks j x hx

/-- A turn in the scope is taken in both runs. -/
theorem turn (h : Apart l calls s now p q) (ht : now ≤ t) {i : Nat} {c : ScopedCall}
    (hc : calls[i]? = some c) (hs : c.scope = s) :
    Apart l calls s now (p.move t (.turn i)) (q.move t (.turn i)) := by
  have hsame := h.same i c hc hs
  rcases p.turn_cases t i with ⟨call, next, hi, hmove⟩ | ⟨hidle, hmove⟩
  · rw [hmove, Pool.move_ask (hsame ▸ hi)]
    obtain ⟨c', hc', hasks⟩ := h.asks i _ hi
    obtain rfl := Option.some.inj (hc.symm.trans hc')
    subst hs
    obtain ⟨hanswer, hagrees⟩ := h.agrees.answer ht hasks.1
    refine ⟨hagrees, h.asks_ask hc hasks.2, fun j d hd hds => ?_⟩
    show (p.clients.set i _)[j]? = (q.clients.set i _)[j]?
    by_cases hij : i = j
    · subst hij
      rw [List.getElem?_set_self (List.getElem?_eq_some_iff.1 hi).1,
        List.getElem?_set_self (List.getElem?_eq_some_iff.1 (hsame ▸ hi)).1, hanswer]
    · rw [List.getElem?_set_ne hij, List.getElem?_set_ne hij]
      exact h.same j d hd hds
  · rw [hmove, Pool.move_idle (hsame ▸ hidle)]
    exact h

/-- A turn in another scope is left out of one run. -/
theorem turn_of_ne (h : Apart l calls s now p q) {i : Nat}
    (hs : ∀ c, calls[i]? = some c → c.scope ≠ s) :
    Apart l calls s now (p.move t (.turn i)) q := by
  rcases p.turn_cases t i with ⟨call, next, hi, hmove⟩ | ⟨-, hmove⟩
  · obtain ⟨c, hc, hasks⟩ := h.asks i _ hi
    have hkey : call.key ≠ l.key s.name := fun hkey =>
      hs c hc (Limiter.key_inj (hasks.1.symm.trans hkey))
    rw [hmove]
    refine ⟨h.agrees.of_ne hkey, h.asks_ask hc hasks.2, fun j d hd hds => ?_⟩
    have hij : i ≠ j := by
      rintro rfl
      exact hs d hd hds
    show (p.clients.set i _)[j]? = q.clients[j]?
    rw [List.getElem?_set_ne hij]
    exact h.same j d hd hds
  · rw [hmove]
    exact h

/-- The step: a move of the whole run is made in the other one as well if it concerns the
scope, and is left out there if not. -/
theorem move (h : Apart l calls s now p q) (ht : now ≤ t) (v : Move) :
    Apart l calls s t (p.move t v) (if l.concerns calls s v then q.move t v else q) := by
  cases v with
  | purge => exact ⟨h.agrees.purge ht, h.asks, h.same⟩
  | call c =>
    by_cases hc : c.key = l.key s.name
    · rw [if_pos (Limiter.concerns_call.2 hc)]
      exact ⟨(h.agrees.answer ht hc).2.later ht, h.asks, h.same⟩
    · rw [if_neg (mt Limiter.concerns_call.1 hc)]
      exact ⟨(h.agrees.of_ne hc).later ht, h.asks, h.same⟩
  | turn i =>
    by_cases hi : ∃ c, calls[i]? = some c ∧ c.scope = s
    · obtain ⟨c, hc, hs⟩ := hi
      rw [if_pos (Limiter.concerns_turn.2 ⟨c, hc, hs⟩)]
      exact (h.turn ht hc hs).later ht
    · rw [if_neg (mt Limiter.concerns_turn.1 hi)]
      exact (h.turn_of_ne fun c hc hs => hi ⟨c, hc, hs⟩).later ht

/-- The run. -/
theorem run (h : Apart l calls s now p q) {moves : List (Instant × Move)}
    (hsorted : (now :: moves.map Prod.fst).Pairwise (· ≤ ·)) :
    ∃ last, Apart l calls s last (p.run moves) (q.run (l.only calls s moves)) := by
  induction moves generalizing now p q with
  | nil => exact ⟨now, h⟩
  | cons e rest ih =>
    obtain ⟨t, v⟩ := e
    obtain ⟨hstart, hsorted⟩ := List.pairwise_cons.1 hsorted
    have hmove := h.move (hstart t List.mem_cons_self) v
    obtain ⟨last, hlast⟩ := ih hmove hsorted
    refine ⟨last, ?_⟩
    rw [Limiter.only, List.filter_cons]
    split at hlast
    · next hv =>
      rw [if_pos hv]
      exact hlast
    · next hv =>
      rw [if_neg hv]
      exact hlast

end Apart

end

/-! ## Whole runs -/

/-- **Scopes do not share a budget.** Take the calls of one scope out of any run, with any
other calls and limits in it: they are answered as if they had been made alone, at the same
instants. That holds of calls made one after the other, and of calls that put their questions
in any order, with calls of other computations and purges among them. Addresses are of one
scope just if they are to be counted as one, and the action is the same. -/
theorem answers_within_scope (l : Limiter) (m : Memory) (s : Scope) :
    (∀ timed : List (Instant × ScopedCall),
      (l.serve m timed).filter (·.1.scope = s) = l.serve m (timed.filter (·.2.scope = s))) ∧
    (∀ (calls : List ScopedCall) (moves : List (Instant × Move)),
      (moves.map Prod.fst).Pairwise (· ≤ ·) →
      ∀ (i : Nat) (c : ScopedCall), calls[i]? = some c → c.scope = s →
      ((l.pool m calls).run moves).clients[i]? =
        ((l.pool m calls).run (l.only calls s moves)).clients[i]?) ∧
    ∀ (a b : Address) (x y : Action),
      Scope.ofAddress a x = Scope.ofAddress b y ↔ a.SharesOrigin b ∧ x = y := by
  refine ⟨serve_filter fun _ _ => rfl, fun calls moves hsorted i c hc hs => ?_, fun a b x y => ?_⟩
  · have hsorted' : (0 :: moves.map Prod.fst).Pairwise (· ≤ ·) :=
      List.pairwise_cons.2 ⟨fun _ _ => Nat.zero_le _, hsorted⟩
    obtain ⟨last, hlast⟩ := (apart_start m).run hsorted'
    exact hlast.same i c hc hs
  · rw [← Address.origin_eq_iff]
    constructor
    · intro h
      exact Scope.origin.inj h
    · rintro ⟨horigin, rfl⟩
      rw [Scope.ofAddress, Scope.ofAddress, horigin]

/-! ## Two logins among other calls -/

/-- Two logins of a user, with another action and a message of the same user. -/
def sampleCalls : List ScopedCall :=
  [.request (.user ⟨1⟩ .auth) (.perMinute 1) .check,
    .request (.user ⟨1⟩ .api) (.perMinute 1) .check, .slowmode ⟨1⟩ ⟨2⟩ 5,
    .request (.user ⟨1⟩ .auth) (.perMinute 1) .check]

def sampleTurns : List (Instant × Move) :=
  [(0, .turn 1), (1, .turn 2), (2, .turn 0), (3, .turn 2), (4, .purge), (5, .turn 3)]

theorem answers_sampleCalls :
    Limiter.only ⟨{}⟩ sampleCalls (.user ⟨1⟩ .auth) sampleTurns = [(2, .turn 0), (5, .turn 3)] ∧
    ((Limiter.pool ⟨{}⟩ .empty sampleCalls).run sampleTurns).clients[0]? =
      some (.done (.verdict (.ok ()))) ∧
    ((Limiter.pool ⟨{}⟩ .empty sampleCalls).run sampleTurns).clients[3]? =
      some (.done (.verdict (.error (.tooMany 1 60 60)))) := by
  have honly : Limiter.only ⟨{}⟩ sampleCalls (.user ⟨1⟩ .auth) sampleTurns =
      [(2, .turn 0), (5, .turn 3)] := by decide
  obtain ⟨-, happart, -⟩ := answers_within_scope ⟨{}⟩ .empty (.user ⟨1⟩ .auth)
  have halone := happart sampleCalls sampleTurns (by decide)
  rw [honly] at halone
  refine ⟨honly, ?_, ?_⟩
  · rw [halone 0 _ rfl rfl]
    rfl
  · rw [halone 3 _ rfl rfl]
    rfl

end Turnstile

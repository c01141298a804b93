import Turnstile.Proofs.Store.Interleaving
import Turnstile.Rate.Limiter

/-!
# Slowmode under interleaving

A slowmode check asks twice: it looks for the marker of the last message, and if there is
none it counts the marker. Between the two, other checks may do the same, so several can
find no marker; the count then tells the first of them from the rest. Here any number of
checks for one user and channel are interleaved, question by question.

    Slowed now p                 what every run keeps                  (Slowed.move, Slowed.run)
    Opened now p                 the first message is let pass         (Opened.move, Opened.run)
    messages let pass are an interval apart, and within one
    interval exactly one is                                            (slowmode_interleaved)

A counter has 64 bits, so no more checks than it can count may be between their two questions
at one time.
-/

namespace Turnstile

open Dialogue

/-! ## Runs of slowmode checks -/

/-- Whether the client's next question is an increment. -/
def aboutToCount {α : Type} : Counting α → Bool
  | .ask (.increment ..) _ => true
  | _ => false

/-- How many clients are about to count. -/
def Pool.inFlight {α : Type} (p : Pool α) : Nat := p.clients.countP aboutToCount

/-- The message of client `i` is let pass. -/
def Pool.Admitted (p : Pool (Except QuotaDenial Unit)) (i : Nat) : Prop :=
  p.clients[i]? = some (.done (.ok ()))

/-- The interval in nanoseconds. -/
def slowmodeNanos (secs : Int64) : Nat := secs.toNatClampNeg * 1000000000

namespace Limiter

variable (l : Limiter) (userId channelId : Uuid) (secs : Int64)

def markerKey : String := l.key (Scope.slowmode userId channelId).name

/-- The increment that a slowmode check ends in. -/
def markerCall : StoreCall := .increment (l.markerKey userId channelId) (.ofSecs secs.toUInt64)

/-- What may happen at an instant: turns when the clock can show the end of the interval, and
calls of others that do not count the marker. -/
def Allows (t : Instant) : Move → Prop
  | .turn _ => (Instant.add? t (.ofSecs secs.toUInt64)).isSome = true
  | .call c => ∀ ttl, c ≠ .increment (l.markerKey userId channelId) ttl
  | .purge => True

/-- `n` slowmode checks of one user in one channel, interleaved. -/
def slowmodeRun (n : Nat) (m : Memory) (moves : List (Instant × Move)) :
    Pool (Except QuotaDenial Unit) :=
  (Pool.start m (List.replicate n (l.checkSlowmode userId channelId secs))).run moves

/-- Client `i` counts the marker in this exchange. -/
structure Counts (p : Pool (Except QuotaDenial Unit)) (i : Nat) (e : Exchange) : Prop where
  mem : e ∈ p.log
  client : e.client = i
  call : e.call = l.markerCall userId channelId secs

/-! ## The invariant -/

/-- The exchange that lets a message pass. -/
def Passed (e : Exchange) : Prop :=
  e.call = l.markerCall userId channelId secs ∧ marked secs e.answer = .ok ()

/-- The marker, while checks are about to count it. -/
inductive Marker (now : Instant) (p : Pool (Except QuotaDenial Unit)) : Prop
  /-- None is about to count. -/
  | idle : p.inFlight = 0 → Marker now p
  | absent : (∀ later, now ≤ later →
      p.memory.live? later (l.markerKey userId channelId) = none) → Marker now p
  /-- It is at `i`, and 64 bits hold all that may yet be counted. -/
  | counted (i : Nat) (stop : Instant) : 1 ≤ i → i + p.inFlight ≤ Int64.maxValue.toInt →
      (∀ later, now ≤ later → p.memory.live? later (l.markerKey userId channelId) =
        counterAt i stop later) → Marker now p

/-- What every run keeps. -/
structure Slowed (now : Instant) (p : Pool (Except QuotaDenial Unit)) : Prop where
  /-- Each check is at its start, between its questions, or at its end. -/
  staged : ∀ x ∈ p.clients, x = l.checkSlowmode userId channelId secs ∨
    x = l.marking userId channelId secs ∨ ∃ v, x = .done v
  /-- Whoever has counted the marker is at the end, with the verdict on that count. -/
  settled : ∀ e ∈ p.log, e.call = l.markerCall userId channelId secs →
    p.clients[e.client]? = some (.done (marked secs e.answer))
  logged : ∀ i, p.Admitted i → ∃ e, l.Counts userId channelId secs p i e
  spaced : p.log.Pairwise fun e e' => l.Passed userId channelId secs e →
    l.Passed userId channelId secs e' → e.time + slowmodeNanos secs ≤ e'.time
  /-- Throughout the interval after a message there is a marker. -/
  guarded : ∀ e ∈ p.log, l.Passed userId channelId secs e → ∀ later, now ≤ later →
    later < e.time + slowmodeNanos secs →
    (p.memory.live? later (l.markerKey userId channelId)).isSome = true
  marker : l.Marker userId channelId now p

end Limiter

open Limiter

section
variable {l : Limiter} {userId channelId : Uuid} {secs : Int64} {now t : Instant}
  {p : Pool (Except QuotaDenial Unit)}

/-! ## Stages of a check -/

theorem ofSecs_toNanos (hpos : 0 < secs) :
    (Duration.ofSecs secs.toUInt64).toNanos = slowmodeNanos secs := by
  rw [Duration.toNanos_ofSecs, slowmodeNanos, Int64.toNat_toUInt64_of_le (Int64.le_of_lt hpos)]

theorem checkSlowmode_pos (hpos : 0 < secs) :
    l.checkSlowmode userId channelId secs =
      .ask (.read (l.markerKey userId channelId)) (l.sought userId channelId secs) := by
  rw [checkSlowmode_eq, if_neg (Int64.not_le.2 hpos)]
  rfl

theorem marking_eq : l.marking userId channelId secs =
    .ask (l.markerCall userId channelId secs) fun a => .done (marked secs a) := rfl

theorem markerCall_ne_read (key : String) :
    l.markerCall userId channelId secs ≠ .read key := nofun

/-- Only a client that is at its end can have counted the marker. -/
theorem Limiter.Slowed.client_ne (h : l.Slowed userId channelId secs now p) {i : Nat}
    {q : StoreCall} {next : StoreAnswer → Limiter.Verdict}
    (hi : p.clients[i]? = some (.ask q next)) {e : Exchange} (he : e ∈ p.log)
    (hcall : e.call = l.markerCall userId channelId secs) : i ≠ e.client := by
  rintro rfl
  rw [h.settled e he hcall] at hi
  cases hi

/-- Replacing one client changes the number of those about to count by that one. -/
theorem countP_set_client {clients : List Limiter.Verdict} {i : Nat} {x : Limiter.Verdict}
    (hi : clients[i]? = some x) (y : Limiter.Verdict) :
    (clients.set i y).countP aboutToCount + (if aboutToCount x then 1 else 0) =
      clients.countP aboutToCount + (if aboutToCount y then 1 else 0) := by
  obtain ⟨hlt, hget⟩ := List.getElem?_eq_some_iff.1 hi
  have hpos : aboutToCount x = true → 0 < clients.countP aboutToCount := fun hx =>
    List.countP_pos_iff.2 ⟨x, List.mem_of_getElem? hi, hx⟩
  rw [List.countP_set hlt, hget]
  by_cases hx : aboutToCount x = true
  · have := hpos hx
    simp only [hx, if_true]
    omega
  · simp only [hx, Bool.false_eq_true, if_false]
    omega

/-- A check that looks for the marker is denied where there is one, and is about to count it
where there is none. -/
theorem sought_read (l : Limiter) (userId channelId : Uuid) (secs : Int64) (t : Instant)
    (m : Memory) :
    (∃ c, m.live? t (l.markerKey userId channelId) = some c ∧
      l.sought userId channelId secs (m.read t (l.markerKey userId channelId)) =
        .done (.error (.slowmode secs.toUInt64 secs.toUInt64))) ∨
    (m.live? t (l.markerKey userId channelId) = none ∧
      l.sought userId channelId secs (m.read t (l.markerKey userId channelId)) =
        l.marking userId channelId secs) := by
  rw [m.read_eq]
  cases m.live? t (l.markerKey userId channelId) with
  | some c => exact Or.inl ⟨c, rfl, rfl⟩
  | none => exact Or.inr ⟨rfl, rfl⟩

/-- The first count lets the message pass, and no later one does. -/
theorem marked_ofNat {n : Nat} (hn : n ≤ Int64.maxValue.toInt) :
    marked secs (.ok (.ofNat n)) = .ok () ↔ n ≤ 1 := by
  rw [Int64.toInt_maxValue] at hn
  have hone : (1 : Int64).toInt = 1 := rfl
  have hcount : (Int64.ofNat n).toInt = n := Int64.toInt_ofNat_of_lt (by omega)
  have hlt : 1 < Int64.ofNat n ↔ 1 < n := by
    rw [Int64.lt_iff_toInt_lt, hone, hcount]
    omega
  rw [marked]
  by_cases h : 1 < n
  · simp [hlt.2 h]
    omega
  · simp [mt hlt.1 h]
    omega

/-- What others do, and questions that change neither the marker nor who is about to count. -/
theorem Limiter.Marker.later (h : l.Marker userId channelId now p) (ht : now ≤ t)
    {p' : Pool (Except QuotaDenial Unit)} (hflight : p'.inFlight = p.inFlight)
    (hm : ∀ later, t ≤ later → p'.memory.live? later (l.markerKey userId channelId) =
      p.memory.live? later (l.markerKey userId channelId)) :
    l.Marker userId channelId t p' := by
  cases h with
  | idle hidle => exact .idle (hflight.trans hidle)
  | absent hnone =>
    refine .absent fun later hlater => ?_
    rw [hm later hlater, hnone later (Nat.le_trans ht hlater)]
  | counted i stop hi hbound hat =>
    refine .counted i stop hi (by rw [hflight]; exact hbound) fun later hlater => ?_
    rw [hm later hlater, hat later (Nat.le_trans ht hlater)]

/-! ## One move -/

namespace Limiter.Slowed

/-- The exchange just made keeps the tie between the log and the ends of the checks. -/
theorem settled_ask (h : l.Slowed userId channelId secs now p) {i : Nat} {q : StoreCall}
    {next : StoreAnswer → Verdict} (hi : p.clients[i]? = some (.ask q next))
    (hmarked : q = l.markerCall userId channelId secs →
      ∀ a, next a = .done (marked secs a))
    (hpassed : next (p.memory.answer t q).1 = .done (.ok ()) →
      q = l.markerCall userId channelId secs) :
    (∀ e ∈ (p.ask t i q next).log, e.call = l.markerCall userId channelId secs →
      (p.ask t i q next).clients[e.client]? = some (.done (marked secs e.answer))) ∧
    ∀ j, (p.ask t i q next).Admitted j →
      ∃ e, l.Counts userId channelId secs (p.ask t i q next) j e := by
  have hlt : i < p.clients.length := (List.getElem?_eq_some_iff.1 hi).1
  constructor
  · intro e he hcall
    show (p.clients.set i _)[e.client]? = _
    rcases List.mem_append.1 he with he | he
    · rw [List.getElem?_set_ne (h.client_ne hi he hcall)]
      exact h.settled e he hcall
    · rw [List.mem_singleton] at he
      subst he
      rw [List.getElem?_set_self hlt, hmarked hcall]
  · intro j hj
    have hj : (p.clients.set i _)[j]? = some (.done (.ok ())) := hj
    by_cases hij : i = j
    · subst hij
      rw [List.getElem?_set_self hlt] at hj
      have hq := hpassed (Option.some.inj hj)
      exact ⟨_, List.mem_append_right _ (List.mem_singleton.2 rfl), rfl, hq⟩
    · rw [List.getElem?_set_ne hij] at hj
      obtain ⟨e, he⟩ := h.logged j hj
      exact ⟨e, List.mem_append_left _ he.mem, he.client, he.call⟩

theorem staged_set (h : l.Slowed userId channelId secs now p) (i : Nat) {y : Verdict}
    (hy : y = l.marking userId channelId secs ∨ ∃ v, y = .done v) :
    ∀ x ∈ p.clients.set i y, x = l.checkSlowmode userId channelId secs ∨
      x = l.marking userId channelId secs ∨ ∃ v, x = .done v := by
  intro x hx
  rcases List.mem_or_eq_of_mem_set hx with hx | rfl
  · exact h.staged x hx
  · exact Or.inr hy

/-- A new exchange keeps its distance if a message that it lets pass does. -/
theorem spaced_append (h : l.Slowed userId channelId secs now p) {e₀ : Exchange}
    (hnew : l.Passed userId channelId secs e₀ → ∀ e ∈ p.log,
      l.Passed userId channelId secs e → e.time + slowmodeNanos secs ≤ e₀.time) :
    (p.log ++ [e₀]).Pairwise fun e e' => l.Passed userId channelId secs e →
      l.Passed userId channelId secs e' → e.time + slowmodeNanos secs ≤ e'.time := by
  rw [List.pairwise_append]
  refine ⟨h.spaced, List.pairwise_singleton _ _, fun e he e' he' hpassed hpassed' => ?_⟩
  rw [List.mem_singleton] at he'
  subst he'
  exact hnew hpassed' e he hpassed

/-- What others do at the store leaves the marker as it is. -/
theorem of_memory (h : l.Slowed userId channelId secs now p) (ht : now ≤ t) {m : Memory}
    (hm : ∀ later, t ≤ later → m.live? later (l.markerKey userId channelId) =
      p.memory.live? later (l.markerKey userId channelId)) :
    l.Slowed userId channelId secs t { p with memory := m } where
  staged := h.staged
  settled := h.settled
  logged := by
    intro i hi
    obtain ⟨e, he⟩ := h.logged i hi
    exact ⟨e, he.mem, he.client, he.call⟩
  spaced := h.spaced
  guarded := by
    intro e he hpassed later hlater hbefore
    show (m.live? later _).isSome = true
    rw [hm later hlater]
    exact h.guarded e he hpassed later (Nat.le_trans ht hlater) hbefore
  marker := h.marker.later ht rfl hm

/-- The first question. It changes nothing in the store. -/
theorem ask_read (h : l.Slowed userId channelId secs now p) (hpos : 0 < secs) (ht : now ≤ t)
    {i : Nat} (hi : p.clients[i]? = some (l.checkSlowmode userId channelId secs)) :
    l.Slowed userId channelId secs t (p.move t (.turn i)) := by
  rw [checkSlowmode_pos hpos] at hi
  rw [Pool.move_ask hi]
  have hnext := sought_read l userId channelId secs t p.memory
  have hnot : ∀ a, ¬ l.Passed userId channelId secs
      ⟨t, i, .read (l.markerKey userId channelId), a⟩ := fun a hpassed =>
    markerCall_ne_read _ hpassed.1.symm
  obtain ⟨hsettled, hlogged⟩ := h.settled_ask (t := t) hi
    (fun hq => absurd hq.symm (markerCall_ne_read _)) fun hdone => by
      rcases hnext with ⟨c, -, hdenied⟩ | ⟨-, hmarking⟩
      · cases hdenied.symm.trans hdone
      · cases hmarking.symm.trans hdone
  refine ⟨h.staged_set i ?_, hsettled, hlogged, h.spaced_append fun hpassed => absurd hpassed
    (hnot _), ?_, ?_⟩
  · rcases hnext with ⟨c, -, hdenied⟩ | ⟨-, hmarking⟩
    · exact Or.inr ⟨_, hdenied⟩
    · exact Or.inl hmarking
  · intro e he hpassed later hlater hbefore
    rcases List.mem_append.1 he with he | he
    · exact h.guarded e he hpassed later (Nat.le_trans ht hlater) hbefore
    · rw [List.mem_singleton] at he
      subst he
      exact absurd hpassed (hnot _)
  · rcases hnext with ⟨c, -, hdenied⟩ | ⟨hnone, -⟩
    · -- the check ends here, and was not about to count before
      have hcount := countP_set_client hi (.done (.error (.slowmode secs.toUInt64 secs.toUInt64)))
      refine h.marker.later ht ?_ fun _ _ => rfl
      show (p.clients.set i (l.sought _ _ _ (p.memory.read t _))).countP aboutToCount = _
      rw [hdenied]
      exact hcount
    · refine .absent fun later hlater => ?_
      show p.memory.live? later _ = none
      rw [p.memory.live?_later hlater, hnone]
      rfl

/-- The second question, which leaves the marker at `k` until `stop`. If that lets the message
pass, the marker lasts for its interval, and those of earlier messages are over; if not, the
marker still lasts as long as they do. -/
theorem ask_marker (h : l.Slowed userId channelId secs now p) {i : Nat}
    (hi : p.clients[i]? = some (l.marking userId channelId secs)) {k : Nat} {stop : Instant}
    (hk : 1 ≤ k) (hbound : k + p.inFlight ≤ Int64.maxValue.toInt + 1)
    (hcount : (p.memory.increment t (l.markerKey userId channelId)
      (.ofSecs secs.toUInt64)).1 = .ofNat k)
    (hat : ∀ later, (p.memory.increment t (l.markerKey userId channelId)
      (.ofSecs secs.toUInt64)).2.live? later (l.markerKey userId channelId) =
        counterAt k stop later)
    (hold : ∀ e ∈ p.log, l.Passed userId channelId secs e → ∀ later, t ≤ later →
      later < e.time + slowmodeNanos secs → later < stop)
    (hnew : k ≤ 1 → stop = t + slowmodeNanos secs ∧ ∀ e ∈ p.log,
      l.Passed userId channelId secs e → e.time + slowmodeNanos secs ≤ t) :
    l.Slowed userId channelId secs t (p.move t (.turn i)) := by
  rw [marking_eq] at hi
  rw [Pool.move_ask hi]
  have hflight : (p.clients.set i (.done (marked secs (.ok (.ofNat k))))).countP aboutToCount + 1 =
      p.inFlight := countP_set_client hi _
  have hanswer : (p.memory.answer t (l.markerCall userId channelId secs)).1 = .ok (.ofNat k) :=
    congrArg Except.ok hcount
  have hpassed : l.Passed userId channelId secs ⟨t, i, l.markerCall userId channelId secs,
      (p.memory.answer t (l.markerCall userId channelId secs)).1⟩ → k ≤ 1 := fun hpassed => by
    have hok := hpassed.2
    rw [hanswer] at hok
    exact (marked_ofNat (by omega)).1 hok
  obtain ⟨hsettled, hlogged⟩ := h.settled_ask (t := t) hi (fun _ _ => rfl) fun _ => rfl
  refine ⟨h.staged_set i (Or.inr ⟨_, rfl⟩), hsettled, hlogged, h.spaced_append fun hnow =>
    (hnew (hpassed hnow)).2, ?_, ?_⟩
  · intro e he hpassed' later hlater hbefore
    show ((p.memory.increment t _ (.ofSecs secs.toUInt64)).2.live? later _).isSome = true
    have hstop : later < stop := by
      rcases List.mem_append.1 he with he | he
      · exact hold e he hpassed' later hlater hbefore
      · rw [List.mem_singleton] at he
        subst he
        rw [(hnew (hpassed hpassed')).1]
        exact hbefore
    rw [hat later, counterAt, if_pos hstop]
    rfl
  · refine .counted k stop hk ?_ fun later _ => hat later
    show k + (p.clients.set i (.done (marked secs _))).countP aboutToCount ≤ Int64.maxValue.toInt
    rw [hanswer]
    omega

/-- Where the marker is absent or over, the second question sets it for the interval. -/
theorem ask_marker_after (h : l.Slowed userId channelId secs now p) (hpos : 0 < secs)
    (ht : now ≤ t) (hflight : p.inFlight ≤ Int64.maxValue.toInt)
    (hfits : (Instant.add? t (.ofSecs secs.toUInt64)).isSome = true) {i : Nat}
    (hi : p.clients[i]? = some (l.marking userId channelId secs)) (n : Nat) (stop : Instant)
    (hat : p.memory.live? t (l.markerKey userId channelId) = counterAt n stop t)
    (hafter : ¬ t < stop) : l.Slowed userId channelId secs t (p.move t (.turn i)) := by
  obtain ⟨hcount, hnext⟩ := increment_after hat hafter hfits
  rw [ofSecs_toNanos hpos] at hnext
  have hover : ∀ e ∈ p.log, l.Passed userId channelId secs e →
      e.time + slowmodeNanos secs ≤ t := by
    intro e he hpassed
    apply Nat.le_of_not_lt
    intro hlt
    have hsome := h.guarded e he hpassed t ht hlt
    rw [hat, counterAt, if_neg hafter] at hsome
    cases hsome
  refine h.ask_marker hi (Nat.le_refl 1) (by omega) hcount hnext ?_ fun _ => ⟨rfl, hover⟩
  intro e he hpassed later hlater hbefore
  have := hover e he hpassed
  exact absurd (Nat.le_trans this hlater) (Nat.not_le.2 hbefore)

/-- The step: whatever may happen next keeps the invariant. -/
theorem move (h : l.Slowed userId channelId secs now p) (hpos : 0 < secs) (ht : now ≤ t)
    (hflight : p.inFlight ≤ Int64.maxValue.toInt) {v : Move} (hv : l.Allows userId channelId secs t v) :
    l.Slowed userId channelId secs t (p.move t v) := by
  cases v with
  | call c => exact h.of_memory ht fun later _ => p.memory.live?_answer_of_ne t later hv
  | purge => exact h.of_memory ht fun later hlater => p.memory.live?_purge hlater _
  | turn i =>
    rcases p.turn_cases t i with ⟨q, next, hi, -⟩ | ⟨-, hmove⟩
    · rcases h.staged _ (List.mem_of_getElem? hi) with hx | hx | ⟨v, hx⟩
      · rw [hx] at hi
        exact h.ask_read hpos ht hi
      · rw [hx] at hi
        -- the client itself is about to count
        have hone : 0 < p.inFlight :=
          List.countP_pos_iff.2 ⟨_, List.mem_of_getElem? hi, rfl⟩
        cases h.marker with
        | idle hidle => omega
        | absent hnone =>
          refine h.ask_marker_after hpos ht hflight hv hi 0 0 ?_ (Nat.not_lt_zero t)
          rw [hnone t ht]
          exact (if_neg (Nat.not_lt_zero t)).symm
        | counted n stop hn hbound hat =>
          by_cases hinside : t < stop
          · obtain ⟨hcount, hnext⟩ := increment_inside (.ofSecs secs.toUInt64) (hat t ht) hinside
            refine h.ask_marker hi (by omega) (by omega) hcount hnext ?_ (by omega)
            intro e he hpassed later hlater hbefore
            have hsome := h.guarded e he hpassed later (Nat.le_trans ht hlater) hbefore
            rw [hat later (Nat.le_trans ht hlater), counterAt] at hsome
            split at hsome
            · assumption
            · cases hsome
          · exact h.ask_marker_after hpos ht hflight hv hi n stop (hat t ht) hinside
      · cases hx
    · rw [hmove]
      exact h.of_memory ht fun _ _ => rfl

/-- The run: the invariant holds to the end. -/
theorem run {moves : List (Instant × Move)} (h : l.Slowed userId channelId secs now p)
    (hpos : 0 < secs) (hsorted : (now :: moves.map Prod.fst).Pairwise (· ≤ ·))
    (hallows : ∀ e ∈ moves, l.Allows userId channelId secs e.1 e.2)
    (hflight : ∀ before, before <+: moves → (p.run before).inFlight ≤ Int64.maxValue.toInt) :
    ∃ last, l.Slowed userId channelId secs last (p.run moves) := by
  induction moves generalizing now p with
  | nil => exact ⟨now, h⟩
  | cons e rest ih =>
    obtain ⟨t, v⟩ := e
    obtain ⟨hstart, hsorted⟩ := List.pairwise_cons.1 hsorted
    have ht := hstart t List.mem_cons_self
    have hv := hallows _ List.mem_cons_self
    have hnow := hflight [] List.nil_prefix
    refine ih (h.move hpos ht hnow hv) hsorted (fun e he => hallows e (List.mem_cons_of_mem _ he))
      fun before hbefore => ?_
    exact hflight ((t, v) :: before) (List.prefix_cons_inj _ |>.2 hbefore)

end Limiter.Slowed

theorem slowed_start (hpos : 0 < secs) (n : Nat) (m : Memory) (now : Instant) :
    l.Slowed userId channelId secs now
      (Pool.start m (List.replicate n (l.checkSlowmode userId channelId secs))) where
  staged := fun x hx => Or.inl (List.eq_of_mem_replicate hx)
  settled := fun e he => nomatch he
  logged := by
    intro i hi
    have hx := List.eq_of_mem_replicate (List.mem_of_getElem? hi)
    rw [checkSlowmode_pos hpos] at hx
    cases hx
  spaced := List.Pairwise.nil
  guarded := fun e he => nomatch he
  marker := by
    refine .idle ?_
    show (List.replicate n _).countP aboutToCount = 0
    rw [List.countP_replicate, checkSlowmode_pos hpos]
    rfl

/-! ## The first message -/

/-- Some message was let pass, or the marker was never set and no check is at its end. -/
inductive Limiter.Opened (l : Limiter) (userId channelId : Uuid) (secs : Int64) (now : Instant)
    (p : Pool (Except QuotaDenial Unit)) : Prop
  | passed (i : Nat) : p.Admitted i → Opened l userId channelId secs now p
  | unset : (∀ later, now ≤ later →
        p.memory.live? later (l.markerKey userId channelId) = none) →
      (∀ x ∈ p.clients, x = l.checkSlowmode userId channelId secs ∨
        x = l.marking userId channelId secs) → Opened l userId channelId secs now p

/-- Where no marker was set yet, the first to count it is let pass. -/
theorem Limiter.Opened.move (h : l.Opened userId channelId secs now p) (hpos : 0 < secs)
    (ht : now ≤ t) {v : Move} (hv : l.Allows userId channelId secs t v) :
    l.Opened userId channelId secs t (p.move t v) := by
  cases h with
  | passed i hi => exact .passed i (p.getElem?_move_of_done hi t v)
  | unset hnone hclients =>
    have hlater : ∀ later, t ≤ later →
        p.memory.live? later (l.markerKey userId channelId) = none :=
      fun later hlater => hnone later (Nat.le_trans ht hlater)
    cases v with
    | call c =>
      refine .unset (fun later hle => ?_) hclients
      exact (p.memory.live?_answer_of_ne t later hv).trans (hlater later hle)
    | purge =>
      refine .unset (fun later hle => ?_) hclients
      exact (p.memory.live?_purge hle _).trans (hlater later hle)
    | turn i =>
      rcases p.turn_cases t i with ⟨q, next, hi, hmove⟩ | ⟨-, hmove⟩
      · rw [hmove]
        rcases hclients _ (List.mem_of_getElem? hi) with hx | hx
        · rw [checkSlowmode_pos hpos] at hx
          cases hx
          refine .unset hlater fun y hy => ?_
          rcases List.mem_or_eq_of_mem_set hy with hy | rfl
          · exact hclients y hy
          · rcases sought_read l userId channelId secs t p.memory with ⟨c, hc, -⟩ | ⟨-, hmarking⟩
            · rw [hlater t (Nat.le_refl t)] at hc
              cases hc
            · exact Or.inr hmarking
        · rw [marking_eq] at hx
          cases hx
          have hlt := (List.getElem?_eq_some_iff.1 hi).1
          have hcount : (p.memory.increment t (l.markerKey userId channelId)
              (.ofSecs secs.toUInt64)).1 = 1 := by
            rw [p.memory.increment_fst, hlater t (Nat.le_refl t)]
            rfl
          refine .passed i ?_
          show (p.clients.set i (.done (marked secs (.ok (p.memory.increment t _ _).1))))[i]? = _
          rw [List.getElem?_set_self hlt, hcount]
          rfl
      · rw [hmove]
        exact .unset hlater hclients

theorem Limiter.Opened.run {moves : List (Instant × Move)}
    (h : l.Opened userId channelId secs now p) (hpos : 0 < secs)
    (hsorted : (now :: moves.map Prod.fst).Pairwise (· ≤ ·))
    (hallows : ∀ e ∈ moves, l.Allows userId channelId secs e.1 e.2) :
    ∃ last, l.Opened userId channelId secs last (p.run moves) := by
  induction moves generalizing now p with
  | nil => exact ⟨now, h⟩
  | cons e rest ih =>
    obtain ⟨t, v⟩ := e
    obtain ⟨hstart, hsorted⟩ := List.pairwise_cons.1 hsorted
    have ht := hstart t List.mem_cons_self
    have hv := hallows _ List.mem_cons_self
    exact ih (h.move hpos ht hv) hsorted fun e he => hallows e (List.mem_cons_of_mem _ he)

/-! ## Whole runs -/

/-- Two messages that are let pass were counted an interval apart, one way or the other. -/
theorem Limiter.Slowed.apart (h : l.Slowed userId channelId secs now p) {i j : Nat} (hij : i ≠ j)
    (hi : p.Admitted i) (hj : p.Admitted j) {e e' : Exchange}
    (he : l.Counts userId channelId secs p i e) (he' : l.Counts userId channelId secs p j e') :
    e.time + slowmodeNanos secs ≤ e'.time ∨ e'.time + slowmodeNanos secs ≤ e.time := by
  have hpassed : ∀ {i e}, p.Admitted i → l.Counts userId channelId secs p i e →
      l.Passed userId channelId secs e := by
    intro i e hi he
    have hdone := h.settled e he.mem he.call
    rw [he.client, hi] at hdone
    cases hv : marked secs e.answer with
    | ok u => exact ⟨he.call, hv⟩
    | error d =>
      rw [hv] at hdone
      cases hdone
  have hspaced := List.pairwise_iff_getElem.1 h.spaced
  obtain ⟨a, ha, hae⟩ := List.getElem_of_mem he.mem
  obtain ⟨b, hb, hbe⟩ := List.getElem_of_mem he'.mem
  have hpe := hpassed hi he
  have hpe' := hpassed hj he'
  rcases Nat.lt_trichotomy a b with hlt | heq | hgt
  · have := hspaced a b ha hb hlt
    rw [hae, hbe] at this
    exact Or.inl (this hpe hpe')
  · subst heq
    have hsame : e = e' := hae.symm.trans hbe
    exact absurd (he.client.symm.trans ((congrArg Exchange.client hsame).trans he'.client)) hij
  · have := hspaced b a hb ha hgt
    rw [hae, hbe] at this
    exact Or.inr (this hpe' hpe)

/-- Once all checks are at their end, some message was let pass. -/
theorem Limiter.Opened.exists_admitted (h : l.Opened userId channelId secs now p)
    (hpos : 0 < secs) (hsome : 0 < p.clients.length) (hdone : ∀ x ∈ p.clients, ∃ v, x = .done v) :
    ∃ i, p.Admitted i := by
  cases h with
  | passed i hi => exact ⟨i, hi⟩
  | unset _ hclients =>
    have hmem := List.getElem_mem hsome
    obtain ⟨v, hv⟩ := hdone _ hmem
    rcases hclients _ hmem with hx | hx
    · rw [hv, checkSlowmode_pos hpos] at hx
      cases hx
    · rw [hv, marking_eq] at hx
      cases hx

end

/-- **One message per interval, however the checks are interleaved.** Any number of slowmode
checks of one user in one channel take their questions at instants that never go back, while
others call the store without counting the marker, and purge it. Each check that is admitted
has counted the marker, and the counts of two admitted checks are at least the interval
apart. If there is no marker at the start and all checks are made from first to last within
less than the interval, exactly one of them is admitted. -/
theorem slowmode_interleaved (l : Limiter) (userId channelId : Uuid) (secs : Int64) (n : Nat)
    (m : Memory) (start : Instant) (moves : List (Instant × Move)) (hpos : 0 < secs)
    (hsorted : (start :: moves.map Prod.fst).Pairwise (· ≤ ·))
    (hallows : ∀ e ∈ moves, l.Allows userId channelId secs e.1 e.2)
    (hflight : ∀ before, before <+: moves →
      (l.slowmodeRun userId channelId secs n m before).inFlight ≤ Int64.maxValue.toInt) :
    let p := l.slowmodeRun userId channelId secs n m moves
    (∀ i, p.Admitted i → ∃ e, l.Counts userId channelId secs p i e) ∧
    (∀ i j, i ≠ j → p.Admitted i → p.Admitted j → ∀ e e',
      l.Counts userId channelId secs p i e → l.Counts userId channelId secs p j e' →
      e.time + slowmodeNanos secs ≤ e'.time ∨ e'.time + slowmodeNanos secs ≤ e.time) ∧
    (m.live? start (l.markerKey userId channelId) = none → 1 ≤ n →
      (∀ x ∈ p.clients, ∃ v, x = .done v) →
      (∀ e ∈ p.log, ∀ e' ∈ p.log, e'.time < e.time + slowmodeNanos secs) →
      ∃ i, p.Admitted i ∧ ∀ j, p.Admitted j → j = i) := by
  intro p
  obtain ⟨last, hslowed⟩ := (slowed_start hpos n m start).run hpos hsorted hallows hflight
  have hapart : ∀ i j, i ≠ j → p.Admitted i → p.Admitted j → ∀ e e',
      l.Counts userId channelId secs p i e → l.Counts userId channelId secs p j e' →
      e.time + slowmodeNanos secs ≤ e'.time ∨ e'.time + slowmodeNanos secs ≤ e.time :=
    fun i j hij hi hj e e' he he' => hslowed.apart hij hi hj he he'
  refine ⟨hslowed.logged, hapart, fun hnone hn hdone hwithin => ?_⟩
  have hopened : l.Opened userId channelId secs start
      (Pool.start m (List.replicate n (l.checkSlowmode userId channelId secs))) := by
    refine .unset (fun later hlater => ?_) fun x hx => Or.inl (List.eq_of_mem_replicate hx)
    show m.live? later _ = none
    rw [m.live?_later hlater, hnone]
    rfl
  obtain ⟨_, hopened⟩ := hopened.run hpos hsorted hallows
  have hlength : p.clients.length = n := by
    show ((Pool.start m _).run moves).clients.length = n
    rw [Pool.length_run]
    exact List.length_replicate
  have hsome : 0 < p.clients.length := by omega
  obtain ⟨i, hi⟩ := hopened.exists_admitted hpos hsome hdone
  refine ⟨i, hi, fun j hj => Decidable.byContradiction fun hij => ?_⟩
  obtain ⟨e, he⟩ := hslowed.logged i hi
  obtain ⟨e', he'⟩ := hslowed.logged j hj
  have hlt := hwithin e he.mem e' he'.mem
  have hgt := hwithin e' he'.mem e he.mem
  rcases hapart i j (Ne.symm hij) hi hj e e' he he' with hle | hle
  · exact absurd hle (Nat.not_le.2 hlt)
  · exact absurd hle (Nat.not_le.2 hgt)

/-! ## Three messages within five seconds -/

/-- Two messages find no marker, the second of them counts it first, and the third message
finds it. Meanwhile the store is purged and another key is counted. -/
def sampleRace : List (Instant × Move) :=
  [(0, .turn 0), (1, .turn 1), (2, .turn 1), (3, .purge),
    (4, .call (.increment "sessions" (.ofSecs 60))), (5, .turn 0), (6, .turn 2)]

theorem slowmode_sampleRace :
    (∀ e ∈ sampleRace, Limiter.Allows ⟨{}⟩ ⟨1⟩ ⟨2⟩ 5 e.1 e.2) ∧
    (∀ before, before <+: sampleRace →
      (Limiter.slowmodeRun ⟨{}⟩ ⟨1⟩ ⟨2⟩ 5 3 .empty before).inFlight ≤ Int64.maxValue.toInt) ∧
    (Limiter.slowmodeRun ⟨{}⟩ ⟨1⟩ ⟨2⟩ 5 3 .empty sampleRace).Admitted 1 ∧
    ∀ i, (Limiter.slowmodeRun ⟨{}⟩ ⟨1⟩ ⟨2⟩ 5 3 .empty sampleRace).Admitted i → i = 1 := by
  have hallows : ∀ e ∈ sampleRace, Limiter.Allows ⟨{}⟩ ⟨1⟩ ⟨2⟩ 5 e.1 e.2 := by
    simp [sampleRace, Limiter.Allows]
    decide
  have hflight : ∀ before, before <+: sampleRace →
      (Limiter.slowmodeRun ⟨{}⟩ ⟨1⟩ ⟨2⟩ 5 3 .empty before).inFlight ≤ Int64.maxValue.toInt := by
    intro before _
    refine Int.le_trans (Int.ofNat_le.2 List.countP_le_length) ?_
    rw [Limiter.slowmodeRun, Pool.length_run]
    decide
  have hfirst : (Limiter.slowmodeRun ⟨{}⟩ ⟨1⟩ ⟨2⟩ 5 3 .empty sampleRace).Admitted 1 := rfl
  have hdone : ∀ x ∈ (Limiter.slowmodeRun ⟨{}⟩ ⟨1⟩ ⟨2⟩ 5 3 .empty sampleRace).clients,
      ∃ v, x = .done v := by
    rw [show (Limiter.slowmodeRun ⟨{}⟩ ⟨1⟩ ⟨2⟩ 5 3 .empty sampleRace).clients =
      [.done (.error (.slowmode 5 5)), .done (.ok ()), .done (.error (.slowmode 5 5))] from rfl]
    simp
  have htimes : (Limiter.slowmodeRun ⟨{}⟩ ⟨1⟩ ⟨2⟩ 5 3 .empty sampleRace).log.map (·.time) =
      [0, 1, 2, 5, 6] := rfl
  obtain ⟨-, -, hone⟩ := slowmode_interleaved ⟨{}⟩ ⟨1⟩ ⟨2⟩ 5 3 .empty 0 sampleRace (by decide)
    (by decide) hallows hflight
  obtain ⟨i, -, honly⟩ := hone rfl (by decide) hdone fun e he e' he' => by
    have hlate : ∀ t ∈ [0, 1, 2, 5, 6], ∀ t' ∈ [0, 1, 2, 5, 6], t' < t + slowmodeNanos 5 := by
      decide
    rw [← htimes] at hlate
    exact hlate _ (List.mem_map_of_mem he) _ (List.mem_map_of_mem he')
  exact ⟨hallows, hflight, hfirst, fun j hj => (honly j hj).trans (honly 1 hfirst).symm⟩

end Turnstile

import Turnstile.Proofs.Store.Live

/-!
# The ideal store

An ideal store keeps no dead counters: each goes at the very instant its deadline is reached,
and a count is a number without bound. The store in memory lets dead counters lie until
they are counted again or purged, and gives the same answers.

    Sees now m s                      the live counters of `m` are the counters of `s`
    a call or a purge, after any time, keeps it         (sees_step, sees_purge)
    answers m steps = Ideal.answers s (calls steps)     (answers_of_sees)
    a whole run from an empty table                     (answers_eq_ideal)
-/

namespace Turnstile

/-! ## Runs of the store in memory -/

/-- What is done to the store. -/
inductive StoreStep where
  | call (c : StoreCall)
  | purge
  deriving DecidableEq

/-- What the store gives back. -/
inductive StoreReply where
  | answer (a : StoreAnswer)
  /-- So many counters were removed. -/
  | purged (n : Nat)

def StoreStep.call? : StoreStep → Option StoreCall
  | .call c => some c
  | .purge => none

def StoreReply.answer? : StoreReply → Option StoreAnswer
  | .answer a => some a
  | .purged _ => none

/-- The calls among the steps. -/
def calls (steps : List (Instant × StoreStep)) : List (Instant × StoreCall) :=
  steps.filterMap fun e => e.2.call?.map fun c => (e.1, c)

namespace Memory

def step (now : Instant) (m : Memory) : StoreStep → StoreReply × Memory
  | .call c => (.answer (m.answer now c).1, (m.answer now c).2)
  | .purge => (.purged (m.purge now).1, (m.purge now).2)

/-- The replies to steps taken one after the other. -/
def replies : Memory → List (Instant × StoreStep) → List StoreReply
  | _, [] => []
  | m, (t, s) :: rest => (m.step t s).1 :: replies (m.step t s).2 rest

/-- The table after the steps. -/
def after : Memory → List (Instant × StoreStep) → Memory
  | m, [] => m
  | m, (t, s) :: rest => after (m.step t s).2 rest

/-- What the calls are answered. -/
def answers (m : Memory) (steps : List (Instant × StoreStep)) : List StoreAnswer :=
  (m.replies steps).filterMap StoreReply.answer?

end Memory

/-! ## The ideal -/

/-- A counter of the ideal store. -/
structure Tally where
  count : Nat
  deadline : Instant

/-- Under each key the counter that is there, if any. -/
abbrev Ideal := String → Option Tally

namespace Ideal

def empty : Ideal := fun _ => none

/-- The clock comes to `now`, and every counter goes whose deadline is reached. -/
def elapse (s : Ideal) (now : Instant) : Ideal :=
  fun key => (s key).filter fun c => now < c.deadline

/-- When a counter goes that is created now: after its time to live, or after a hundred years
if the clock cannot show that. -/
def deadline (now : Instant) (ttl : Duration) : Instant :=
  if now + ttl.toNanos < Instant.bound then now + ttl.toNanos
  else now + 100 * 365 * 86400 * 1000000000

/-- One more under a key. Only a new counter gets a deadline. -/
def next (s : Ideal) (now : Instant) (key : String) (ttl : Duration) : Tally :=
  match s key with
  | some c => { c with count := c.count + 1 }
  | none => ⟨1, deadline now ttl⟩

def set (s : Ideal) (key : String) (c : Tally) : Ideal :=
  fun key' => if key' = key then some c else s key'

def read (s : Ideal) (key : String) : Except StoreFault Nat :=
  match s key with
  | some c => .ok c.count
  | none => .error .notFound

def answer (now : Instant) (s : Ideal) : StoreCall → Except StoreFault Nat × Ideal
  | .increment key ttl => (.ok (s.next now key ttl).count, s.set key (s.next now key ttl))
  | .read key => (s.read key, s)

/-- A call at a point in time. Whatever has reached its deadline goes before the call, and
also right after it if the call created it so. -/
def step (now : Instant) (s : Ideal) (c : StoreCall) : Except StoreFault Nat × Ideal :=
  (((s.elapse now).answer now c).1, ((s.elapse now).answer now c).2.elapse now)

def answers : Ideal → List (Instant × StoreCall) → List (Except StoreFault Nat)
  | _, [] => []
  | s, (t, c) :: rest => (s.step t c).1 :: answers (s.step t c).2 rest

/-- The ideal store after the calls. -/
def after : Ideal → List (Instant × StoreCall) → Ideal
  | s, [] => s
  | s, (t, c) :: rest => after (s.step t c).2 rest

end Ideal

/-! ## The simulation -/

/-- The counter by which the store in memory keeps a count, in 64 bits. -/
def Tally.counter (c : Tally) : Counter := ⟨.ofNat c.count, c.deadline⟩

/-- From this instant on the live counters of `m` are what is left of `s`. -/
def Sees (now : Instant) (m : Memory) (s : Ideal) : Prop :=
  ∀ later, now ≤ later → ∀ key, m.live? later key = (s.elapse later key).map Tally.counter

/-- The clock can show the deadline that the call gives to a new counter, or the one that
takes its place. -/
def StoreCall.Fits (now : Instant) : StoreCall → Prop
  | .increment _ ttl =>
    (Instant.add? now ttl).isSome = true ∨ (Instant.add? now Instant.century).isSome = true
  | .read _ => True

theorem Ideal.deadline_eq {now : Instant} {ttl : Duration}
    (h : (Instant.add? now ttl).isSome = true ∨
      (Instant.add? now Instant.century).isSome = true) :
    Instant.deadline now ttl = Ideal.deadline now ttl := by
  have hcentury : Instant.century.toNanos = 100 * 365 * 86400 * 1000000000 := by decide
  unfold Ideal.deadline
  by_cases hfits : now + ttl.toNanos < Instant.bound
  · have hsome : (Instant.add? now ttl).isSome = true := by
      rw [Instant.add?, if_pos hfits]
      rfl
    rw [if_pos hfits, Instant.deadline_eq hsome]
  · have hnone : Instant.add? now ttl = none := by rw [Instant.add?, if_neg hfits]
    have hlast : (Instant.add? now Instant.century).isSome = true := by
      rw [hnone] at h
      simpa using h
    rw [if_neg hfits, Instant.deadline, hnone, Option.none_or]
    unfold Instant.add? at hlast ⊢
    split at hlast
    · next hc => rw [if_pos hc, Option.getD_some, hcentury]
    · cases hlast

theorem Ideal.elapse_elapse (s : Ideal) {now later : Instant} (h : now ≤ later) :
    (s.elapse now).elapse later = s.elapse later := by
  funext key
  unfold Ideal.elapse
  rw [Option.filter_filter]
  congr 1
  funext c
  by_cases hc : later < c.deadline
  · have hnow : now < c.deadline := Nat.lt_of_le_of_lt h hc
    simp [hc, hnow]
  · simp [hc]

theorem Tally.filter_counter (c : Option Tally) (now : Instant) :
    (c.map Tally.counter).filter (·.isLive now) =
      (c.filter fun c => now < c.deadline).map Tally.counter := by
  cases c with
  | none => rfl
  | some c =>
    by_cases h : now < c.deadline
    · simp [Option.filter, Tally.counter, Counter.isLive, h]
    · simp [Option.filter, Tally.counter, Counter.isLive, h]

section
variable {now t : Instant} {m : Memory} {s : Ideal}

theorem sees_empty (now : Instant) : Sees now .empty .empty := fun _ _ _ => rfl

theorem sees_purge (h : Sees now m s) (ht : now ≤ t) : Sees t (m.purge t).2 s := by
  intro later hlater key
  rw [m.live?_purge hlater, h later (Nat.le_trans ht hlater) key]

/-- One more under a key makes the same of it in both stores. -/
theorem next_counter (h : Sees now m s) (ht : now ≤ t) (key : String) (ttl : Duration)
    (hfits : (StoreCall.increment key ttl).Fits t) :
    Counter.next (m.live? t key) t ttl = ((s.elapse t).next t key ttl).counter := by
  have hlive : (m.live? t key).filter (·.isLive t) = m.live? t key :=
    (m.live?_later (Nat.le_refl t) key).symm
  unfold Counter.next Ideal.next
  rw [hlive, h t ht key]
  cases s.elapse t key with
  | none =>
    show Counter.mk 1 (Instant.deadline t ttl) = _
    rw [Ideal.deadline_eq hfits]
    rfl
  | some c =>
    show Counter.mk (.ofNat c.count + 1) c.deadline = ⟨.ofNat (c.count + 1), c.deadline⟩
    rw [Int64.ofNat_add]
    rfl

/-- The step: a call gets the same answer from both stores, and leaves the same counters. -/
theorem sees_step (h : Sees now m s) (ht : now ≤ t) (c : StoreCall) (hfits : c.Fits t) :
    (m.answer t c).1 = (s.step t c).1.map Int64.ofNat ∧
      Sees t (m.answer t c).2 (s.step t c).2 := by
  cases c with
  | increment key ttl =>
    have hnext := next_counter h ht key ttl hfits
    constructor
    · show Except.ok (m.increment t key ttl).1 = _
      rw [m.increment_fst, hnext]
      rfl
    · intro later hlater other
      show _ = ((((s.elapse t).set key ((s.elapse t).next t key ttl)).elapse t).elapse later
        other).map _
      rw [Ideal.elapse_elapse _ hlater]
      by_cases hkey : other = key
      · subst hkey
        show (m.increment t other ttl).2.live? later other = _
        rw [m.live?_increment_self, hnext, Ideal.elapse, Ideal.set, if_pos rfl,
          ← Tally.filter_counter]
        rfl
      · have hother : ∀ ttl', StoreCall.increment key ttl ≠ .increment other ttl' := by
          intro ttl' heq
          cases heq
          exact hkey rfl
        have hset : ((s.elapse t).set key ((s.elapse t).next t key ttl)).elapse later other =
            (s.elapse t).elapse later other := by
          rw [Ideal.elapse, Ideal.set, if_neg hkey]
          rfl
        rw [m.live?_answer_of_ne t later hother, hset, Ideal.elapse_elapse _ hlater,
          h later (Nat.le_trans ht hlater) other]
  | read key =>
    constructor
    · show m.read t key = ((s.elapse t).read key).map _
      rw [m.read_eq, h t ht key, Ideal.read]
      cases s.elapse t key with
      | none => rfl
      | some c => rfl
    · intro later hlater other
      show m.live? later other = (((s.elapse t).elapse t).elapse later other).map _
      rw [Ideal.elapse_elapse _ (Nat.le_refl t), Ideal.elapse_elapse _ hlater,
        h later (Nat.le_trans ht hlater) other]

/-! ## Runs -/

/-- What a run keeps: at each step the live counters are what is left of the ideal store,
which is asked the same calls and knows of no purge. -/
theorem answers_of_sees {steps : List (Instant × StoreStep)} (h : Sees now m s)
    (hsorted : (steps.map Prod.fst).Pairwise (· ≤ ·)) (hstart : ∀ e ∈ steps, now ≤ e.1)
    (hfits : ∀ e ∈ calls steps, e.2.Fits e.1) :
    m.answers steps = (Ideal.answers s (calls steps)).map (·.map Int64.ofNat) ∧
      ∀ later, now ≤ later → (∀ e ∈ steps, e.1 ≤ later) →
        Sees later (m.after steps) (Ideal.after s (calls steps)) := by
  induction steps generalizing now m s with
  | nil => exact ⟨rfl, fun later hlater _ t ht => h t (Nat.le_trans hlater ht)⟩
  | cons e rest ih =>
    obtain ⟨t, step⟩ := e
    rw [List.map_cons, List.pairwise_cons] at hsorted
    have hrest : ∀ e ∈ rest, t ≤ e.1 := fun e he => hsorted.1 _ (List.mem_map_of_mem he)
    have hnow := hstart _ List.mem_cons_self
    cases step with
    | call c =>
      obtain ⟨hanswer, hsees⟩ := sees_step h hnow c (hfits (t, c) List.mem_cons_self)
      obtain ⟨hanswers, hafter⟩ := ih hsees hsorted.2 hrest fun e he =>
        hfits e (List.mem_cons_of_mem _ he)
      refine ⟨?_, fun later _ hlater => ?_⟩
      · show (m.answer t c).1 :: Memory.answers (m.answer t c).2 rest = _
        rw [hanswer, hanswers]
        rfl
      · exact hafter later (hlater _ List.mem_cons_self) fun e he =>
          hlater e (List.mem_cons_of_mem _ he)
    | purge =>
      obtain ⟨hanswers, hafter⟩ := ih (sees_purge h hnow) hsorted.2 hrest hfits
      refine ⟨hanswers, fun later _ hlater => ?_⟩
      exact hafter later (hlater _ List.mem_cons_self) fun e he =>
        hlater e (List.mem_cons_of_mem _ he)

end

/-- From an empty table and an empty store every run starts. -/
theorem answers_of_empty {steps : List (Instant × StoreStep)}
    (hsorted : (steps.map Prod.fst).Pairwise (· ≤ ·)) (hfits : ∀ e ∈ calls steps, e.2.Fits e.1) :
    Memory.empty.answers steps =
        (Ideal.answers .empty (calls steps)).map (·.map Int64.ofNat) ∧
      ∀ later, (∀ e ∈ steps, e.1 ≤ later) →
        Sees later (Memory.empty.after steps) (Ideal.after .empty (calls steps)) := by
  obtain ⟨hanswers, hafter⟩ :=
    answers_of_sees (sees_empty 0) hsorted (fun e _ => Nat.zero_le e.1) hfits
  exact ⟨hanswers, fun later hlater => hafter later (Nat.zero_le later) hlater⟩

/-! ## Counts -/

namespace Ideal

/-- No counter is above `k`. -/
def AtMost (s : Ideal) (k : Nat) : Prop := ∀ key c, s key = some c → c.count ≤ k

theorem AtMost.elapse {s : Ideal} {k : Nat} (h : s.AtMost k) (now : Instant) :
    (s.elapse now).AtMost k := by
  intro key c hc
  exact h key c (Option.filter_eq_some_iff.1 hc).1

/-- Only an increment can bring a counter, or an answer, above where the counters were. -/
theorem AtMost.step {s : Ideal} {k : Nat} (h : s.AtMost k) (t : Instant) (c : StoreCall) :
    (∀ n, (s.step t c).1 = .ok n → n ≤ k + if c.isIncrement then 1 else 0) ∧
      (s.step t c).2.AtMost (k + if c.isIncrement then 1 else 0) := by
  have ht := h.elapse t
  cases c with
  | increment key ttl =>
    have hnext : ((s.elapse t).next t key ttl).count ≤ k + 1 := by
      unfold next
      cases hs : s.elapse t key with
      | none => simp
      | some c =>
        have hc := ht key c hs
        simp only
        omega
    refine ⟨fun n hn => ?_, AtMost.elapse (fun other c hc => ?_) t⟩
    · cases hn
      exact hnext
    · have hc : (s.elapse t).set key ((s.elapse t).next t key ttl) other = some c := hc
      rw [set] at hc
      split at hc
      · cases hc
        exact hnext
      · have hother := ht other c hc
        simp only [StoreCall.isIncrement]
        omega
  | read key =>
    refine ⟨fun n hn => ?_, ht.elapse t⟩
    have hn : (s.elapse t).read key = .ok n := hn
    rw [read] at hn
    split at hn
    · next c hs =>
      cases hn
      exact ht key c hs
    · cases hn

theorem AtMost.answers {s : Ideal} {k : Nat} (h : s.AtMost k)
    (cs : List (Instant × StoreCall)) :
    ∀ n, .ok n ∈ s.answers cs → n ≤ k + cs.countP (fun e => e.2.isIncrement) := by
  induction cs generalizing s k with
  | nil =>
    intro n hn
    cases hn
  | cons e rest ih =>
    obtain ⟨t, c⟩ := e
    obtain ⟨hfirst, hrest⟩ := h.step t c
    intro n hn
    simp only [List.countP_cons]
    rcases List.mem_cons.1 hn with hn | hn
    · have := hfirst n hn.symm
      omega
    · have := ih hrest n hn
      omega

end Ideal

/-! ## Purges -/

namespace Memory

/-- A purge removes the counters that have reached their deadline, and counts them. -/
theorem purge_fst (m : Memory) (now : Instant) :
    (m.purge now).1 = m.counters.countP fun e => e.2.expiresAt ≤ now := by
  have hsplit := List.length_eq_countP_add_countP (fun e : String × Counter => e.2.isLive now)
    (l := m.counters)
  have hdead : (m.counters.countP fun e => ¬ e.2.isLive now = true) =
      m.counters.countP fun e => e.2.expiresAt ≤ now := by
    refine List.countP_congr fun e _ => ?_
    simp [Counter.isLive]
  unfold purge
  simp only [← List.countP_eq_length_filter]
  omega

theorem after_append (m : Memory) (before rest : List (Instant × StoreStep)) :
    m.after (before ++ rest) = (m.after before).after rest := by
  induction before generalizing m with
  | nil => rfl
  | cons e before ih => exact ih _

theorem getElem?_replies (m : Memory) (before rest : List (Instant × StoreStep)) (t : Instant)
    (s : StoreStep) :
    (m.replies (before ++ (t, s) :: rest))[before.length]? = some ((m.after before).step t s).1 := by
  induction before generalizing m with
  | nil => rfl
  | cons e before ih =>
    obtain ⟨t', s'⟩ := e
    exact ih _

end Memory

/-! ## A run from the start -/

/-- **Dead counters cannot be told from absent ones.** Any calls and purges, in the order of
time, on a store that was empty at first: each call is answered as by the ideal store, to
which only the calls are put. So purges may be put in or left out anywhere. A purge gives
the number of counters it removes, which are those past their deadline, and what it leaves is
what the ideal store holds. A counter has 64 bits, and runs that count beyond that are not
spoken of. -/
theorem answers_eq_ideal (steps : List (Instant × StoreStep))
    (hsorted : (steps.map Prod.fst).Pairwise (· ≤ ·))
    (hcount : (calls steps).countP (fun e => e.2.isIncrement) ≤ Int64.maxValue.toInt)
    (hfits : ∀ e ∈ calls steps, e.2.Fits e.1) :
    (Memory.empty.answers steps).map (·.map Int64.toInt) =
      (Ideal.answers .empty (calls steps)).map (·.map Int.ofNat) ∧
    (∀ others : List (Instant × StoreStep), (others.map Prod.fst).Pairwise (· ≤ ·) →
      calls others = calls steps → Memory.empty.answers others = Memory.empty.answers steps) ∧
    ∀ before t rest, steps = before ++ (t, .purge) :: rest →
      (Memory.empty.replies steps)[before.length]? = some (.purged
        ((Memory.empty.after before).counters.countP fun e => e.2.expiresAt ≤ t)) ∧
      (Memory.empty.after (before ++ [(t, .purge)])).counters =
        (Memory.empty.after before).counters.filter (fun e => t < e.2.expiresAt) ∧
      ∀ key, (Memory.empty.after (before ++ [(t, .purge)])).find? key =
        ((Ideal.after .empty (calls before)).elapse t key).map Tally.counter := by
  refine ⟨?_, fun others hothers hcalls => ?_, ?_⟩
  · rw [(answers_of_empty hsorted hfits).1, List.map_map]
    refine List.map_congr_left fun a ha => ?_
    cases a with
    | error fault => rfl
    | ok n =>
      have hnone : Ideal.AtMost .empty 0 := fun key c hc => nomatch hc
      have hn := hnone.answers (calls steps) n ha
      rw [Int64.toInt_maxValue] at hcount
      show Except.ok (Int64.ofNat n).toInt = Except.ok (n : Int)
      rw [Int64.toInt_ofNat_of_lt (by omega)]
  · have hfits' : ∀ e ∈ calls others, e.2.Fits e.1 := by
      rw [hcalls]
      exact hfits
    rw [(answers_of_empty hsorted hfits).1, (answers_of_empty hothers hfits').1, hcalls]
  · rintro before t rest rfl
    rw [List.map_append, List.pairwise_append] at hsorted
    have hearlier : ∀ e ∈ before, e.1 ≤ t := fun e he =>
      hsorted.2.2 _ (List.mem_map_of_mem he) t List.mem_cons_self
    have hbefore : ∀ e ∈ calls before, e.2.Fits e.1 := fun e he =>
      hfits e (by rw [calls, List.filterMap_append]; exact List.mem_append_left _ he)
    have hsees := (answers_of_empty hsorted.1 hbefore).2 t hearlier
    have hafter : Memory.empty.after (before ++ [(t, .purge)]) =
        ((Memory.empty.after before).purge t).2 := Memory.after_append _ _ _
    refine ⟨?_, ?_, fun key => ?_⟩
    · rw [Memory.getElem?_replies, ← Memory.purge_fst]
      rfl
    · rw [hafter]
      rfl
    · rw [hafter, Memory.find?_purge]
      exact hsees t (Nat.le_refl t) key

/-! ## Counters that are dead at birth -/

/-- Two increments without a time to live, one for a second, one that keeps its deadline, one
for as long as can be asked, a purge when the second is over, and a look at what is left. -/
def sampleSteps : List (Instant × StoreStep) :=
  [(0, .call (.increment "a" (.ofSecs 0))), (0, .call (.increment "a" (.ofSecs 0))),
   (0, .call (.increment "a" (.ofSecs 1))), (5, .call (.increment "a" (.ofSecs 60))),
   (5, .call (.increment "b" (.ofSecs 0xFFFFFFFFFFFFFFFF))), (1000000000, .purge),
   (1000000000, .call (.read "a")), (1000000000, .call (.read "b"))]

theorem answers_sampleSteps :
    (∀ e ∈ calls sampleSteps, e.2.Fits e.1) ∧
    (Memory.empty.answers sampleSteps).map (·.map Int64.toInt) =
      [.ok 1, .ok 1, .ok 1, .ok 2, .ok 1, .error .notFound, .ok 1] ∧
    (Memory.empty.replies sampleSteps)[5]? = some (.purged 1) := by
  have hfits : ∀ e ∈ calls sampleSteps, e.2.Fits e.1 := by
    simp [sampleSteps, calls, StoreStep.call?, StoreCall.Fits]
    decide
  obtain ⟨hanswers, -, hpurges⟩ := answers_eq_ideal sampleSteps (by decide) (by decide) hfits
  refine ⟨hfits, ?_, ?_⟩
  · rw [hanswers]
    rfl
  · exact (hpurges (sampleSteps.take 5) 1000000000 (sampleSteps.drop 6) rfl).1

end Turnstile

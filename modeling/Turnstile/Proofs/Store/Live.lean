import Turnstile.Store.Memory

/-!
# What can be seen of the store in memory

A counter past its deadline is still in the table, but no client can tell. What there is to
be seen under a key at an instant is its live counter, if any. Here is how each step of the
store changes that, at any instant from then on.

    counting under the key      the next of the live counter      (live?_increment_self)
    any other call              nothing                           (live?_answer_of_ne)
    reading                     the count that is seen            (read_eq)
    purging                     nothing                           (live?_purge)
    time that passes            hides it at its deadline          (live?_later)

A key that is counted with one time to live has its windows one after the other: a counter
goes up inside its window (`increment_inside`), and the first one after opens the next
(`increment_after`).
-/

namespace Turnstile

namespace StoreCall

def key : StoreCall → String
  | .increment key _ => key
  | .read key => key

def isIncrement : StoreCall → Bool
  | .increment .. => true
  | .read _ => false

end StoreCall

namespace Memory

/-- The live counter of a key. -/
def live? (m : Memory) (now : Instant) (key : String) : Option Counter :=
  (m.find? key).filter (·.isLive now)

end Memory

/-! ## Lemmas -/

theorem Counter.isLive_of_le {c : Counter} {now later : Instant} (h : now ≤ later)
    (hlive : c.isLive later = true) : c.isLive now = true := by
  rw [isLive, decide_eq_true_eq] at *
  exact Nat.lt_of_le_of_lt h hlive

theorem Instant.deadline_eq {now : Instant} {ttl : Duration} (h : (add? now ttl).isSome = true) :
    deadline now ttl = now + ttl.toNanos := by
  rw [add?] at h
  split at h
  · next hfits => rw [deadline, add?, if_pos hfits, Option.some_or, Option.getD_some]
  · cases h

namespace Memory

@[simp] theorem live?_empty (now : Instant) (key : String) : empty.live? now key = none := rfl

theorem live?_later (m : Memory) {now later : Instant} (h : now ≤ later) (key : String) :
    m.live? later key = (m.live? now key).filter (·.isLive later) := by
  rw [live?, live?, Option.filter_filter]
  congr 1
  funext c
  cases hlive : c.isLive later
  · simp
  · simp [Counter.isLive_of_le h hlive]

theorem next_find? (m : Memory) (now : Instant) (key : String) (ttl : Duration) :
    Counter.next (m.find? key) now ttl = Counter.next (m.live? now key) now ttl := by
  rw [Counter.next, Counter.next, live?, Option.filter_filter]
  simp

theorem increment_fst (m : Memory) (now : Instant) (key : String) (ttl : Duration) :
    (m.increment now key ttl).1 = (Counter.next (m.live? now key) now ttl).count := by
  rw [← next_find?, increment]

theorem read_eq (m : Memory) (now : Instant) (key : String) :
    m.read now key =
      match m.live? now key with
      | some c => .ok c.count
      | none => .error .notFound := by
  unfold read live?
  cases m.find? key with
  | none => rfl
  | some c =>
    by_cases hc : c.isLive now = true
    · simp [Option.filter, hc]
    · simp [Option.filter, hc]

theorem live?_increment_self (m : Memory) (now later : Instant) (key : String) (ttl : Duration) :
    (m.increment now key ttl).2.live? later key =
      (some (Counter.next (m.live? now key) now ttl)).filter (·.isLive later) := by
  rw [← next_find?, increment, live?, find?_insert, if_pos rfl]

/-- Only counting under a key changes what is seen under it. -/
theorem live?_answer_of_ne (m : Memory) (now later : Instant) {key : String} {call : StoreCall}
    (h : ∀ ttl, call ≠ .increment key ttl) :
    (m.answer now call).2.live? later key = m.live? later key := by
  cases call with
  | increment other ttl =>
    have hne : key ≠ other := by
      rintro rfl
      exact h ttl rfl
    rw [answer, increment, live?, find?_insert, if_neg hne, live?]
  | read other => rfl

theorem live?_purge (m : Memory) {now later : Instant} (h : now ≤ later) (key : String) :
    (m.purge now).2.live? later key = m.live? later key := by
  rw [m.live?_later h, live?, find?_purge, live?]

end Memory

/-! ## The counter of a window -/

/-- A counter at `i` until `stop`, as it is seen at an instant. -/
def counterAt (i : Nat) (stop now : Instant) : Option Counter :=
  if now < stop then some ⟨.ofNat i, stop⟩ else none

/-- No counter is a counter until the beginning of time. -/
theorem counterAt_zero (i : Nat) (now : Instant) : counterAt i 0 now = none :=
  if_neg (Nat.not_lt_zero now)

theorem filter_isLive (i : Nat) (stop now : Instant) :
    (some ⟨.ofNat i, stop⟩ : Option Counter).filter (·.isLive now) = counterAt i stop now := by
  rw [Option.filter_some, counterAt, Counter.isLive]
  simp only [decide_eq_true_eq]

/-- Inside the window one more is counted. -/
theorem increment_inside {m : Memory} {now : Instant} {key : String} {i : Nat} {stop : Instant}
    (ttl : Duration) (h : m.live? now key = counterAt i stop now) (hinside : now < stop) :
    (m.increment now key ttl).1 = .ofNat (i + 1) ∧
      ∀ t, (m.increment now key ttl).2.live? t key = counterAt (i + 1) stop t := by
  have hnext : Counter.next (m.live? now key) now ttl = ⟨.ofNat (i + 1), stop⟩ := by
    have hlive : Counter.isLive ⟨.ofNat i, stop⟩ now = true := decide_eq_true hinside
    rw [h, counterAt, if_pos hinside, Counter.next, Option.filter_some, if_pos hlive,
      Int64.ofNat_add]
    rfl
  refine ⟨?_, fun t => ?_⟩
  · rw [m.increment_fst, hnext]
  · rw [m.live?_increment_self, hnext, filter_isLive]

/-- At or after its end another window opens. -/
theorem increment_after {m : Memory} {now : Instant} {key : String} {i : Nat} {stop : Instant}
    {ttl : Duration} (h : m.live? now key = counterAt i stop now) (hafter : ¬ now < stop)
    (hfits : (Instant.add? now ttl).isSome = true) :
    (m.increment now key ttl).1 = .ofNat 1 ∧
      ∀ t, (m.increment now key ttl).2.live? t key = counterAt 1 (now + ttl.toNanos) t := by
  have hnext : Counter.next (m.live? now key) now ttl = ⟨.ofNat 1, now + ttl.toNanos⟩ := by
    rw [h, counterAt, if_neg hafter, Counter.next, Option.filter_none, Instant.deadline_eq hfits]
    rfl
  refine ⟨?_, fun t => ?_⟩
  · rw [m.increment_fst, hnext]
  · rw [m.live?_increment_self, hnext, filter_isLive]

end Turnstile

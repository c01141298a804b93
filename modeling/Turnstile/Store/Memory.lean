import Turnstile.Store

/-!
# The store in memory

Counters of one process, by key. A counter past its deadline stays in the table until its
key is counted again or until the table is purged; nobody can tell it from one that is gone,
except by the size of the table.

Time is in nanoseconds of a clock that never goes back. Its last instant is just short of
2^63 seconds, and a deadline beyond that is taken to be a hundred years away.
-/

namespace Turnstile

/-- A point on the clock, in nanoseconds. -/
abbrev Instant := Nat

namespace Instant

/-- The first instant that the clock cannot show. -/
def bound : Nat := 0x8000000000000000 * 1000000000

/-- A hundred years of 365 days. -/
def century : Duration := .ofSecs 3153600000

/-- The instant a time later, if the clock can show it. -/
def add? (now : Instant) (d : Duration) : Option Instant :=
  if now + d.toNanos < bound then some (now + d.toNanos) else none

/-- The end of a time to live. -/
def deadline (now : Instant) (ttl : Duration) : Instant :=
  ((add? now ttl).or (add? now century)).getD now

end Instant

structure Counter where
  count : Int64
  expiresAt : Instant
  deriving DecidableEq

namespace Counter

def isLive (c : Counter) (now : Instant) : Bool := now < c.expiresAt

/-- One more in the counter of a key. Without a live counter a fresh one starts. -/
def next (old : Option Counter) (now : Instant) (ttl : Duration) : Counter :=
  match old.filter (·.isLive now) with
  | some c => { c with count := c.count + 1 }
  | none => ⟨1, Instant.deadline now ttl⟩

end Counter

/-- A table of counters. No key occurs twice in it. -/
structure Memory where
  counters : List (String × Counter)
  nodup : (counters.map Prod.fst).Nodup

namespace Memory

def empty : Memory := ⟨[], List.nodup_nil⟩

/-- The counter of a key, dead or alive. -/
def find? (m : Memory) (key : String) : Option Counter := m.counters.lookup key

/-- The entries with a counter put in the place of its key, at the end if the key is new. -/
def put (key : String) (c : Counter) : List (String × Counter) → List (String × Counter)
  | [] => [(key, c)]
  | (k, old) :: r => if k = key then (k, c) :: r else (k, old) :: put key c r

theorem keys_put (key : String) (c : Counter) (l : List (String × Counter)) :
    (put key c l).map Prod.fst =
      if key ∈ l.map Prod.fst then l.map Prod.fst else l.map Prod.fst ++ [key] := by
  induction l with
  | nil => simp [put]
  | cons e r ih =>
    obtain ⟨k, old⟩ := e
    by_cases hk : k = key
    · simp [put, hk]
    · rw [put, if_neg hk, List.map_cons, ih]
      split <;> simp_all [Ne.symm hk]

theorem nodup_put (key : String) (c : Counter) {l : List (String × Counter)}
    (h : (l.map Prod.fst).Nodup) : ((put key c l).map Prod.fst).Nodup := by
  rw [keys_put]
  split
  · exact h
  · next hkey =>
    refine List.nodup_append.2 ⟨h, List.pairwise_singleton _ _, fun k hk k' hk' he => ?_⟩
    rw [he, List.mem_singleton.1 hk'] at hk
    exact hkey hk

/-- The table with a counter put in the place of its key. -/
def insert (m : Memory) (key : String) (c : Counter) : Memory :=
  ⟨put key c m.counters, nodup_put key c m.nodup⟩

/-- Counts one more under a key. -/
def increment (m : Memory) (now : Instant) (key : String) (ttl : Duration) : Int64 × Memory :=
  let c := Counter.next (m.find? key) now ttl
  (c.count, m.insert key c)

/-- The count under a key that has a live counter. -/
def read (m : Memory) (now : Instant) (key : String) : StoreAnswer :=
  match m.find? key with
  | some c => if c.isLive now then .ok c.count else .error .notFound
  | none => .error .notFound

/-- The number of keys in the table. -/
def size (m : Memory) : Nat := m.counters.length

/-- The number of counters past their deadline, and the table without them. -/
def purge (m : Memory) (now : Instant) : Nat × Memory :=
  let live := m.counters.filter fun e => e.2.isLive now
  (m.counters.length - live.length, ⟨live, (List.filter_sublist.map _).nodup m.nodup⟩)

/-- The answer to a call at a point in time. -/
def answer (now : Instant) (m : Memory) : StoreCall → StoreAnswer × Memory
  | .increment key ttl =>
    let (count, m) := m.increment now key ttl
    (.ok count, m)
  | .read key => (m.read now key, m)

/-! ## Lemmas -/

@[simp] theorem find?_empty (key : String) : empty.find? key = none := rfl

theorem find?_eq_some_iff (m : Memory) (key : String) (c : Counter) :
    m.find? key = some c ↔ (key, c) ∈ m.counters := by
  obtain ⟨counters, nodup⟩ := m
  simp only [find?]
  induction counters with
  | nil => simp
  | cons e r ih =>
    obtain ⟨k, old⟩ := e
    obtain ⟨hk, hr⟩ := List.nodup_cons.1 nodup
    by_cases h : key = k
    · subst h
      have hne : (key, c) ∉ r := fun hmem => hk (List.mem_map.2 ⟨_, hmem, rfl⟩)
      simp [hne, eq_comm]
    · simp [List.lookup_cons, beq_false_of_ne h, h, ih hr]

theorem find?_insert (m : Memory) (key key' : String) (c : Counter) :
    (m.insert key c).find? key' = if key' = key then some c else m.find? key' := by
  obtain ⟨counters, nodup⟩ := m
  simp only [find?, insert]
  clear nodup
  induction counters with
  | nil =>
    by_cases h : key' = key
    · simp [put, h]
    · simp [put, List.lookup_cons, beq_false_of_ne h, h]
  | cons e r ih =>
    obtain ⟨k, old⟩ := e
    by_cases hk : k = key
    · subst hk
      by_cases h : key' = k
      · simp [put, h]
      · simp [put, List.lookup_cons, beq_false_of_ne h, h]
    · by_cases h : key' = k
      · subst h; simp [put, hk]
      · simp [put, List.lookup_cons, hk, beq_false_of_ne h, ih]

theorem find?_purge (m : Memory) (now : Instant) (key : String) :
    (m.purge now).2.find? key = (m.find? key).filter (·.isLive now) := by
  ext c
  rw [find?_eq_some_iff, Option.filter_eq_some_iff, find?_eq_some_iff]
  exact List.mem_filter

end Memory

end Turnstile

import Turnstile.Proofs.Rate.Request
import Turnstile.Proofs.Store.Live

/-!
# Fixed windows

The requests on one scope, counted by the store in memory while other computations use the
store too and it is purged now and then. The first request opens a window of the limit's
length, and the first at or after its end opens the next. In each window the requests are
told what is due to them in turn, so as many checks pass as the limit allows, and no more
than twice as many in any stretch of that length.

    served l scopeName limit m events         the requests, each with what it was told
    windows length log                        the same requests, window by window
    live? is a counter at i until stop        what a run keeps                 (counted_served)
    each window is in turn                    what it comes to                 (served_in_windows)
-/

namespace Turnstile

/-- What happens at the store while a scope is in use. -/
inductive Event where
  | request (r : Request)
  /-- A call of another computation. -/
  | call (c : StoreCall)
  | purge

def Event.request? : Event → Option Request
  | .request r => some r
  | _ => none

/-- The requests among the events. -/
def requests (events : List (Instant × Event)) : List (Instant × Request) :=
  events.filterMap fun e => e.2.request?.map fun r => (e.1, r)

/-- A request, when it was counted, and what the client was told. -/
structure Served where
  time : Instant
  request : Request
  answer : Answer

namespace Served

def isAdmitted (s : Served) : Bool := s.answer.isAdmitted

def isBefore (stop : Instant) (s : Served) : Bool := s.time < stop

/-- Whether the request falls in the stretch of this length, both ends included. -/
def isIn (start : Instant) (length : Nat) (s : Served) : Bool :=
  start ≤ s.time ∧ s.time ≤ start + length

end Served

/-- The requests served as these events happen one after the other. -/
def served (l : Limiter) (scopeName : String) (limit : Limit) :
    Memory → List (Instant × Event) → List Served
  | _, [] => []
  | m, (t, .request r) :: rest =>
    let record := Dialogue.hold (Memory.answer t) m (r.put l scopeName limit)
    ⟨t, r, record.result⟩ :: served l scopeName limit record.state rest
  | m, (t, .call c) :: rest => served l scopeName limit (m.answer t c).2 rest
  | m, (t, .purge) :: rest => served l scopeName limit (m.purge t).2 rest

/-- The requests by window. The first opens a window of this length, and the first at or
after its end opens the next. -/
def windows (length : Nat) : List Served → List (List Served)
  | [] => []
  | s :: rest =>
    (s :: rest.takeWhile (·.isBefore (s.time + length))) ::
      windows length (rest.dropWhile (·.isBefore (s.time + length)))
termination_by log => log.length
decreasing_by exact Nat.lt_succ_of_le (List.dropWhile_sublist _).length_le

/-- Each request of a window is told what is due to it. -/
def InTurn (limit : Limit) (window : List Served) : Prop :=
  ∀ i (s : Served), window[i]? = some s → s.answer = s.request.due limit (i + 1)

/-- Counted on from `i`, the requests are told what these counts stand for. -/
def Tallied (limit : Limit) (i : Nat) (log : List Served) : Prop :=
  ∀ k (s : Served), log[k]? = some s → s.answer = s.request.told limit (.ok (.ofNat (i + k + 1)))

/-- Each request finds the counter at `i` until `stop` and is told the next count, or it comes
when that is over and is told the first. -/
inductive Counted (limit : Limit) : Nat → Instant → List Served → Prop
  | nil (i : Nat) (stop : Instant) : Counted limit i stop []
  | inside {i : Nat} {stop t : Instant} {r : Request} {rest : List Served} : t < stop →
      Counted limit (i + 1) stop rest →
      Counted limit i stop (⟨t, r, r.told limit (.ok (.ofNat (i + 1)))⟩ :: rest)
  | after {i : Nat} {stop t : Instant} {r : Request} {rest : List Served} : ¬ t < stop →
      Counted limit 1 (t + limit.window.toNanos) rest →
      Counted limit i stop (⟨t, r, r.told limit (.ok (.ofNat 1))⟩ :: rest)

/-! ## A run, window by window -/

section

variable {l : Limiter} {scopeName : String} {limit : Limit}

theorem served_request (henabled : l.settings.enabled = true) (m : Memory) (t : Instant)
    (r : Request) (rest : List (Instant × Event)) :
    served l scopeName limit m ((t, .request r) :: rest) =
      ⟨t, r, r.told limit (.ok (m.increment t (l.key scopeName) limit.window).1)⟩ ::
        served l scopeName limit (m.increment t (l.key scopeName) limit.window).2 rest := by
  rw [served, Request.put_eq henabled]
  rfl

theorem served_requests (m : Memory) (events : List (Instant × Event)) :
    (served l scopeName limit m events).map (fun s => (s.time, s.request)) = requests events := by
  induction events generalizing m with
  | nil => rfl
  | cons e rest ih =>
    obtain ⟨t, event⟩ := e
    cases event with
    | request r => exact congrArg ((t, r) :: ·) (ih _)
    | call c => exact ih _
    | purge => exact ih _

theorem sorted_served {events : List (Instant × Event)} (hsorted : events.Pairwise (·.1 ≤ ·.1))
    (m : Memory) : (served l scopeName limit m events).Pairwise (·.time ≤ ·.time) := by
  have hrequests : (requests events).Pairwise (·.1 ≤ ·.1) := by
    refine List.pairwise_filterMap.2 (hsorted.imp fun {e e'} hle r hr r' hr' => ?_)
    obtain ⟨_, -, rfl⟩ := Option.map_eq_some_iff.1 hr
    obtain ⟨_, -, rfl⟩ := Option.map_eq_some_iff.1 hr'
    exact hle
  rw [← served_requests m events, List.pairwise_map] at hrequests
  exact hrequests

theorem tallied_nil (limit : Limit) (i : Nat) : Tallied limit i [] := by
  intro k s h
  cases h

theorem tallied_cons {i : Nat} {s : Served} {log : List Served}
    (hs : s.answer = s.request.told limit (.ok (.ofNat (i + 1)))) (hlog : Tallied limit (i + 1) log) :
    Tallied limit i (s :: log) := by
  intro k s' h
  cases k with
  | zero =>
    cases h
    exact hs
  | succ k =>
    have hplace : i + 1 + k + 1 = i + (k + 1) + 1 := by omega
    rw [hlog k s' h, hplace]

/-- What a run keeps: under the key there is a counter at `i` until `stop`, and each request
counts in it or opens the next. -/
theorem counted_served (henabled : l.settings.enabled = true) {events : List (Instant × Event)}
    (hsorted : events.Pairwise (·.1 ≤ ·.1))
    (hother : ∀ e ∈ events, ∀ ttl, e.2 ≠ .call (.increment (l.key scopeName) ttl))
    (hfits : ∀ t r, (t, .request r) ∈ events → (Instant.add? t limit.window).isSome = true)
    {m : Memory} {i : Nat} {stop : Instant}
    (hm : ∀ e ∈ events, m.live? e.1 (l.key scopeName) = counterAt i stop e.1) :
    Counted limit i stop (served l scopeName limit m events) := by
  induction events generalizing m i stop with
  | nil => exact .nil i stop
  | cons e rest ih =>
    obtain ⟨t, event⟩ := e
    obtain ⟨hlater, hsorted⟩ := List.pairwise_cons.1 hsorted
    have ih := @ih hsorted (fun e he => hother e (List.mem_cons_of_mem _ he))
      (fun t r he => hfits t r (List.mem_cons_of_mem _ he))
    have hnow := hm _ List.mem_cons_self
    have hrest := fun e he => hm e (List.mem_cons_of_mem _ he)
    cases event with
    | request r =>
      rw [served_request henabled]
      by_cases hinside : t < stop
      · obtain ⟨hcount, hnext⟩ := increment_inside limit.window hnow hinside
        rw [hcount]
        exact .inside hinside (ih fun e _ => hnext e.1)
      · obtain ⟨hcount, hnext⟩ :=
          increment_after hnow hinside (hfits t r List.mem_cons_self)
        rw [hcount]
        exact .after hinside (ih fun e _ => hnext e.1)
    | call c =>
      have hc : ∀ ttl, c ≠ .increment (l.key scopeName) ttl := by
        rintro ttl rfl
        exact hother _ List.mem_cons_self ttl rfl
      rw [served]
      exact ih fun e he => by rw [m.live?_answer_of_ne t e.1 hc, hrest e he]
    | purge =>
      rw [served]
      exact ih fun e he => by rw [m.live?_purge (hlater e he), hrest e he]

/-- The requests before `stop` are counted on from `i`, and all later windows from their
start. -/
theorem Counted.tallied {i : Nat} {stop : Instant} {log : List Served}
    (h : Counted limit i stop log) :
    Tallied limit i (log.takeWhile (·.isBefore stop)) ∧
    ∀ window ∈ windows limit.window.toNanos (log.dropWhile (·.isBefore stop)),
      Tallied limit 0 window := by
  induction h with
  | nil i stop =>
    rw [List.takeWhile_nil, List.dropWhile_nil, windows]
    exact ⟨tallied_nil limit i, fun _ h => nomatch h⟩
  | @inside i stop t r rest hinside _ ih =>
    obtain ⟨hopen, hclosed⟩ := ih
    have hbefore : Served.isBefore stop ⟨t, r, r.told limit (.ok (.ofNat (i + 1)))⟩ = true :=
      decide_eq_true hinside
    rw [List.takeWhile_cons_of_pos hbefore, List.dropWhile_cons_of_pos hbefore]
    exact ⟨tallied_cons rfl hopen, hclosed⟩
  | @after i stop t r rest hafter _ ih =>
    obtain ⟨hopen, hclosed⟩ := ih
    have hbefore : ¬ Served.isBefore stop ⟨t, r, r.told limit (.ok (.ofNat 1))⟩ = true :=
      fun h => hafter (of_decide_eq_true h)
    rw [List.takeWhile_cons_of_neg hbefore, List.dropWhile_cons_of_neg hbefore, windows]
    refine ⟨tallied_nil limit i, fun window hwindow => ?_⟩
    rcases List.mem_cons.1 hwindow with rfl | hwindow
    · exact tallied_cons rfl hopen
    · exact hclosed window hwindow

/-- Without a counter to begin with, every window is counted from its start. -/
theorem tallied_windows (henabled : l.settings.enabled = true) {events : List (Instant × Event)}
    (hsorted : events.Pairwise (·.1 ≤ ·.1))
    (hother : ∀ e ∈ events, ∀ ttl, e.2 ≠ .call (.increment (l.key scopeName) ttl))
    (hfits : ∀ t r, (t, .request r) ∈ events → (Instant.add? t limit.window).isSome = true)
    {m : Memory} (hidle : ∀ e ∈ events, m.live? e.1 (l.key scopeName) = none) :
    ∀ window ∈ windows limit.window.toNanos (served l scopeName limit m events),
      Tallied limit 0 window := by
  have hall : (served l scopeName limit m events).dropWhile (·.isBefore 0) =
      served l scopeName limit m events := by
    cases served l scopeName limit m events with
    | nil => rfl
    | cons s rest =>
      exact List.dropWhile_cons_of_neg fun h => Nat.not_lt_zero s.time (of_decide_eq_true h)
  have h := (counted_served henabled hsorted hother hfits
    fun e he => by rw [hidle e he, counterAt_zero 0 e.1]).tallied.2
  rw [hall] at h
  exact h

end

/-! ## A window in turn -/

section

variable {limit : Limit} {window : List Served}

theorem Tallied.inTurn (h : Tallied limit 0 window)
    (hcount : window.length ≤ Int64.maxValue.toInt) : InTurn limit window := by
  intro i s hi
  have hlt : i < window.length := (List.getElem?_eq_some_iff.1 hi).1
  rw [h i s hi, Nat.zero_add]
  exact Request.told_ofNat limit (Nat.succ_pos i) (by omega) s.request

theorem InTurn.isAdmitted_iff (h : InTurn limit window) {i : Nat} {s : Served}
    (hi : window[i]? = some s) :
    s.isAdmitted = true ↔ s.request = .check ∧ i < limit.requests.toNat := by
  rw [Served.isAdmitted, h i s hi]
  cases s.request with
  | check =>
    rw [Request.isAdmitted_due_check]
    exact ⟨fun hle => ⟨rfl, hle⟩, fun hle => hle.2⟩
  | remaining => exact ⟨fun hadm => Bool.noConfusion hadm, fun hreq => nomatch hreq.1⟩
  | budget clock => exact ⟨fun hadm => Bool.noConfusion hadm, fun hreq => nomatch hreq.1⟩

/-- The checks admitted in a window are those among its first requests. -/
theorem InTurn.countP_isAdmitted (h : InTurn limit window) :
    window.countP (·.isAdmitted) =
      (window.take limit.requests.toNat).countP (·.request == .check) := by
  have hfirst : (window.take limit.requests.toNat).countP (·.isAdmitted) =
      (window.take limit.requests.toNat).countP (·.request == .check) := by
    refine List.countP_congr fun s hs => ?_
    obtain ⟨i, hi⟩ := List.mem_iff_getElem?.1 hs
    rw [List.getElem?_take] at hi
    split at hi
    · next hlt =>
      rw [h.isAdmitted_iff hi, beq_iff_eq]
      exact ⟨fun hs => hs.1, fun hs => ⟨hs, hlt⟩⟩
    · cases hi
  have hlast : (window.drop limit.requests.toNat).countP (·.isAdmitted) = 0 := by
    refine List.countP_eq_zero.2 fun s hs hadmitted => ?_
    obtain ⟨i, hi⟩ := List.mem_iff_getElem?.1 hs
    rw [List.getElem?_drop] at hi
    have hlt := ((h.isAdmitted_iff hi).1 hadmitted).2
    omega
  rw [← hfirst, ← Nat.add_zero ((window.take _).countP _), ← hlast, ← List.countP_append,
    List.take_append_drop]

theorem InTurn.countP_isAdmitted_le (h : InTurn limit window) :
    window.countP (·.isAdmitted) ≤ limit.requests.toNat := by
  rw [h.countP_isAdmitted]
  exact Nat.le_trans List.countP_le_length (List.length_take_le _ _)

/-- Of nothing but checks, as many are admitted as the limit allows. -/
theorem InTurn.countP_isAdmitted_of_checks (h : InTurn limit window)
    (hchecks : ∀ s ∈ window, s.request = .check) :
    window.countP (·.isAdmitted) = min window.length limit.requests.toNat := by
  rw [h.countP_isAdmitted, List.countP_eq_length.2, List.length_take, Nat.min_comm]
  intro s hs
  exact beq_iff_eq.2 (hchecks s (List.mem_of_mem_take hs))

/-- What a client was told to be left is what the requests after its own find, one less for
each of them. -/
theorem InTurn.after_query (h : InTurn limit window) {i j : Nat} {q s : Served} {n : UInt32}
    (hq : window[i]? = some q) (hn : q.answer.left? = some n) (hj : 0 < j)
    (hs : window[i + j]? = some s) :
    (s.request = .check → (s.isAdmitted = true ↔ j ≤ n.toNat - 1)) ∧
    ∀ n', s.answer.left? = some n' → n'.toNat = n.toNat - j := by
  rw [h i q hq] at hn
  have hleft := Request.toNat_left?_due (Nat.succ_pos i) hn
  constructor
  · intro hcheck
    rw [h.isAdmitted_iff hs]
    constructor
    · rintro ⟨-, hlt⟩
      omega
    · intro hle
      exact ⟨hcheck, by omega⟩
  · intro n' hn'
    rw [h (i + j) s hs] at hn'
    have hleft' := Request.toNat_left?_due (Nat.succ_pos (i + j)) hn'
    omega

end

/-! ## Windows one after the other -/

theorem flatten_windows (length : Nat) (log : List Served) :
    (windows length log).flatten = log := by
  induction log using windows.induct length with
  | case1 => rw [windows, List.flatten_nil]
  | case2 s rest ih =>
    rw [windows, List.flatten_cons, ih, List.cons_append, List.takeWhile_append_dropWhile]

theorem length_le_of_mem_windows {length : Nat} {log window : List Served}
    (h : window ∈ windows length log) : window.length ≤ log.length := by
  rw [← flatten_windows length log]
  exact (List.sublist_flatten_of_mem h).length_le

theorem time_lt_of_mem_takeWhile {stop : Instant} {log : List Served} {s : Served}
    (hs : s ∈ log.takeWhile (·.isBefore stop)) : s.time < stop :=
  of_decide_eq_true (List.all_eq_true.1 List.all_takeWhile s hs)

theorem le_time_of_mem_dropWhile {stop : Instant} {log : List Served}
    (hsorted : log.Pairwise (·.time ≤ ·.time)) {s : Served}
    (hs : s ∈ log.dropWhile (·.isBefore stop)) : stop ≤ s.time := by
  induction log with
  | nil => cases hs
  | cons first rest ih =>
    obtain ⟨hlater, hsorted⟩ := List.pairwise_cons.1 hsorted
    by_cases hbefore : first.isBefore stop = true
    · rw [List.dropWhile_cons_of_pos hbefore] at hs
      exact ih hsorted hs
    · have hfirst : stop ≤ first.time :=
        Nat.le_of_not_lt fun hlt => hbefore (decide_eq_true hlt)
      rw [List.dropWhile_cons_of_neg hbefore] at hs
      rcases List.mem_cons.1 hs with rfl | hs
      · exact hfirst
      · exact Nat.le_trans hfirst (hlater s hs)

/-- The requests of the first window and those after it, counted apart. -/
theorem countP_cons_eq (p : Served → Bool) (length : Nat) (s : Served) (rest : List Served) :
    (s :: rest).countP p =
      (s :: rest.takeWhile (·.isBefore (s.time + length))).countP p +
        (rest.dropWhile (·.isBefore (s.time + length))).countP p := by
  rw [← List.countP_append, List.cons_append, List.takeWhile_append_dropWhile]

theorem countP_and_le (p q : Served → Bool) (log : List Served) :
    log.countP (fun s => p s && q s) ≤ log.countP p :=
  List.countP_mono_left fun _ _ h => (Bool.and_eq_true_iff.1 h).1

/-- No request is in a stretch if each comes before it or after it. -/
theorem countP_isIn_eq_zero {p : Served → Bool} {start : Instant} {length : Nat}
    {log : List Served} (h : ∀ s ∈ log, s.time < start ∨ start + length < s.time) :
    log.countP (fun s => p s && s.isIn start length) = 0 := by
  refine List.countP_eq_zero.2 fun s hs hin => ?_
  have hstretch : start ≤ s.time ∧ s.time ≤ start + length :=
    of_decide_eq_true (Bool.and_eq_true_iff.1 hin).2
  rcases h s hs with hbefore | hafter
  · exact Nat.not_lt.2 hstretch.1 hbefore
  · exact Nat.not_lt.2 hstretch.2 hafter

/-- A stretch no longer than a window that begins before all of the requests touches only one
of their windows. -/
theorem countP_isIn_le_of_before {p : Served → Bool} {n length : Nat} {start : Instant}
    {log : List Served} (hsorted : log.Pairwise (·.time ≤ ·.time))
    (hwindows : ∀ window ∈ windows length log, window.countP p ≤ n)
    (hbefore : ∀ s ∈ log, start < s.time) :
    log.countP (fun s => p s && s.isIn start length) ≤ n := by
  cases log with
  | nil => exact Nat.zero_le n
  | cons s rest =>
    have hsorted := (List.pairwise_cons.1 hsorted).2
    rw [windows] at hwindows
    have hnone : (rest.dropWhile (·.isBefore (s.time + length))).countP
        (fun s => p s && s.isIn start length) = 0 := by
      refine countP_isIn_eq_zero fun r hr => Or.inr ?_
      exact Nat.lt_of_lt_of_le (Nat.add_lt_add_right (hbefore s List.mem_cons_self) length)
        (le_time_of_mem_dropWhile hsorted hr)
    rw [countP_cons_eq _ length, hnone]
    exact Nat.le_trans (countP_and_le p _ _) (hwindows _ List.mem_cons_self)

/-- A stretch no longer than a window touches at most two windows. -/
theorem countP_isIn_le {p : Served → Bool} {n length : Nat} (hlength : 0 < length)
    {log : List Served} (hsorted : log.Pairwise (·.time ≤ ·.time))
    (hwindows : ∀ window ∈ windows length log, window.countP p ≤ n) (start : Instant) :
    log.countP (fun s => p s && s.isIn start length) ≤ 2 * n := by
  induction log using windows.induct length with
  | case1 => exact Nat.zero_le _
  | case2 s rest ih =>
    have hsorted := (List.pairwise_cons.1 hsorted).2
    have hdrop := hsorted.sublist (List.dropWhile_sublist (·.isBefore (s.time + length)))
    rw [windows] at hwindows
    have hlater := fun window h => hwindows window (List.mem_cons_of_mem _ h)
    rw [countP_cons_eq _ length]
    by_cases hstart : s.time + length ≤ start
    · -- the stretch begins when the first window is over
      have hnone : (s :: rest.takeWhile (·.isBefore (s.time + length))).countP
          (fun s => p s && s.isIn start length) = 0 := by
        refine countP_isIn_eq_zero fun r hr => Or.inl (Nat.lt_of_lt_of_le ?_ hstart)
        rcases List.mem_cons.1 hr with rfl | hr
        · exact Nat.lt_add_of_pos_right hlength
        · exact time_lt_of_mem_takeWhile hr
      rw [hnone, Nat.zero_add]
      exact ih hdrop hlater
    · have hfirst : (s :: rest.takeWhile (·.isBefore (s.time + length))).countP
          (fun s => p s && s.isIn start length) ≤ n :=
        Nat.le_trans (countP_and_le p _ _) (hwindows _ List.mem_cons_self)
      have hsecond : (rest.dropWhile (·.isBefore (s.time + length))).countP
          (fun s => p s && s.isIn start length) ≤ n :=
        countP_isIn_le_of_before hdrop hlater fun r hr =>
          Nat.lt_of_lt_of_le (Nat.lt_of_not_le hstart) (le_time_of_mem_dropWhile hsorted hr)
      omega

/-! ## The whole run -/

/-- **Limits are kept window by window.** Take an enabled limiter and a scope that has no
counter yet, and let any events happen in the order of time: requests of any number of
clients, each one question to the store, calls of other computations that do not count under
the same key, and purges. In each window the `i`-th request is told what is due to it; of
checks alone, as many pass as the limit allows; and whoever asks what is left can rely on it
for the rest of the window. No stretch as long as a window has more than twice the limit.
A counter has 64 bits, and a window of more requests than that is not spoken of. -/
theorem served_in_windows (l : Limiter) (scopeName : String) (limit : Limit) (m : Memory)
    (events : List (Instant × Event)) (henabled : l.settings.enabled = true)
    (hsorted : events.Pairwise (·.1 ≤ ·.1))
    (hother : ∀ e ∈ events, ∀ ttl, e.2 ≠ .call (.increment (l.key scopeName) ttl))
    (hfits : ∀ t r, (t, .request r) ∈ events → (Instant.add? t limit.window).isSome = true)
    (hidle : ∀ e ∈ events, m.live? e.1 (l.key scopeName) = none) :
    (served l scopeName limit m events).map (fun s => (s.time, s.request)) = requests events ∧
    (windows limit.window.toNanos (served l scopeName limit m events)).flatten =
      served l scopeName limit m events ∧
    (∀ window ∈ windows limit.window.toNanos (served l scopeName limit m events),
      window.length ≤ Int64.maxValue.toInt →
      InTurn limit window ∧
      ((∀ s ∈ window, s.request = .check) →
        window.countP (·.isAdmitted) = min window.length limit.requests.toNat) ∧
      ∀ i j q s n, window[i]? = some q → q.answer.left? = some n →
        0 < j → window[i + j]? = some s →
        (s.request = .check → (s.isAdmitted = true ↔ j ≤ n.toNat - 1)) ∧
        ∀ n', s.answer.left? = some n' → n'.toNat = n.toNat - j) ∧
    (0 < limit.window.toNanos →
      (∀ window ∈ windows limit.window.toNanos (served l scopeName limit m events),
        window.length ≤ Int64.maxValue.toInt) →
      ∀ start, (served l scopeName limit m events).countP
        (fun s => s.isAdmitted && s.isIn start limit.window.toNanos) ≤
          2 * limit.requests.toNat) := by
  have hinTurn : ∀ window ∈ windows limit.window.toNanos (served l scopeName limit m events),
      window.length ≤ Int64.maxValue.toInt → InTurn limit window := fun window hwindow =>
    (tallied_windows henabled hsorted hother hfits hidle window hwindow).inTurn
  refine ⟨served_requests m events, flatten_windows _ _, fun window hwindow hcount => ?_, ?_⟩
  · have h := hinTurn window hwindow hcount
    exact ⟨h, h.countP_isAdmitted_of_checks, fun i j q s n hq hn hj hs =>
      h.after_query hq hn hj hs⟩
  · intro hlength hcount start
    exact countP_isIn_le hlength (sorted_served hsorted m) (fun window hwindow =>
      (hinTurn window hwindow (hcount window hwindow)).countP_isAdmitted_le) start

/-! ## Two logins in ten seconds -/

/-- A check, a question, other traffic, the third request, and one in the next window. -/
def sampleRun : List (Instant × Event) :=
  [(0, .request .check), (1, .request .remaining), (2, .call (.increment "sessions" (.ofSecs 60))),
    (3, .purge), (4, .request .check), (10000000000, .request .check)]

theorem served_sampleRun :
    (∀ e ∈ sampleRun, ∀ ttl, e.2 ≠ .call (.increment (Limiter.key ⟨{}⟩ "login") ttl)) ∧
    (∀ e ∈ sampleRun, (Instant.add? e.1 (Limit.perSeconds 2 10).window).isSome = true) ∧
    (served ⟨{}⟩ "login" (.perSeconds 2 10) .empty sampleRun).map (·.answer) =
      [.verdict (.ok ()), .remaining 1, .verdict (.error (.tooMany 2 10 10)),
        .verdict (.ok ())] ∧
    (∀ window ∈ windows (Limit.perSeconds 2 10).window.toNanos
        (served ⟨{}⟩ "login" (.perSeconds 2 10) .empty sampleRun),
      InTurn (.perSeconds 2 10) window) ∧
    ∀ start, (served ⟨{}⟩ "login" (.perSeconds 2 10) .empty sampleRun).countP
      (fun s => s.isAdmitted && s.isIn start (Limit.perSeconds 2 10).window.toNanos) ≤ 4 := by
  have hother : ∀ e ∈ sampleRun, ∀ ttl,
      e.2 ≠ .call (.increment (Limiter.key ⟨{}⟩ "login") ttl) := by
    have hkey : "sessions" ≠ Limiter.key ⟨{}⟩ "login" := by decide
    simp [sampleRun, hkey]
  have hfits : ∀ e ∈ sampleRun,
      (Instant.add? e.1 (Limit.perSeconds 2 10).window).isSome = true := by decide
  have hcount : ∀ window ∈ windows (Limit.perSeconds 2 10).window.toNanos
      (served ⟨{}⟩ "login" (.perSeconds 2 10) .empty sampleRun),
      window.length ≤ Int64.maxValue.toInt := by
    intro window hwindow
    have hle := length_le_of_mem_windows hwindow
    have hlength := congrArg List.length
      (@served_requests ⟨{}⟩ "login" (.perSeconds 2 10) .empty sampleRun)
    rw [List.length_map, show (requests sampleRun).length = 4 from rfl] at hlength
    rw [hlength] at hle
    rw [Int64.toInt_maxValue]
    omega
  obtain ⟨-, -, hwindows, hstretch⟩ := served_in_windows ⟨{}⟩ "login" (.perSeconds 2 10) .empty
    sampleRun rfl (by decide) hother (fun t r => hfits (t, .request r))
    fun e _ => Memory.live?_empty e.1 _
  refine ⟨hother, hfits, rfl, fun window hwindow => ?_, hstretch (by decide) hcount⟩
  exact (hwindows window hwindow (hcount window hwindow)).1

end Turnstile

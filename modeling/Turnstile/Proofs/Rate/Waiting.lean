import Turnstile.Proofs.Rate.Definitions
import Turnstile.Proofs.Rate.Windows

/-!
# Time to wait

A check that is denied names a time to wait, in whole seconds. It is told from the limit and not
from the counter, which ends within the window after any request. So whoever waits as long as
the window is let pass; but of a window only the whole seconds are named, and the part of a
second that is left out has to be waited for, too.

    a counter ends within the window after any request that it counted    (Counted.isAdmitted)
    with the part that is left out the time named is enough               (InUse.waitIsEnough)
    with less than that it is not, in some run                            (not_waitIsEnough_hurried)
-/

namespace Turnstile

/-- A scope in use with one limit. Time does not go back, only requests on the scope count under
its key, the clock can show the end of a window from each of them, and there is no counter yet. -/
structure InUse (l : Limiter) (scopeName : String) (limit : Limit) (m : Memory)
    (events : List (Instant × Event)) : Prop where
  sorted : events.Pairwise (·.1 ≤ ·.1)
  others : ∀ e ∈ events, ∀ ttl, e.2 ≠ .call (.increment (l.key scopeName) ttl)
  fits : ∀ t r, (t, .request r) ∈ events → (Instant.add? t limit.window).isSome = true
  idle : ∀ e ∈ events, m.live? e.1 (l.key scopeName) = none

/-- Whoever was told to wait, and next asks after that time and `extra` nanoseconds, is let
pass. -/
def WaitIsEnough (extra : Nat) (log : List Served) : Prop :=
  ∀ i s s' secs, log[i]? = some s → s.answer.retryAfter? = some secs → log[i + 1]? = some s' →
    s'.request = .check → s.time + (Duration.ofSecs secs).toNanos + extra ≤ s'.time →
    s'.isAdmitted = true

section
variable {l : Limiter} {scopeName : String} {limit : Limit} {m : Memory}
  {events : List (Instant × Event)}

theorem InUse.counted (h : InUse l scopeName limit m events)
    (henabled : l.settings.enabled = true) :
    Counted limit 0 0 (served l scopeName limit m events) := by
  refine counted_served henabled h.sorted h.others h.fits fun e he => ?_
  rw [h.idle e he, counterAt_zero]

/-! ### The length of a window is enough -/

/-- The first count is within every limit. -/
theorem isAdmitted_first (hpos : 0 < limit.requests) {t : Instant} {r : Request}
    (hcheck : r = .check) :
    Served.isAdmitted ⟨t, r, r.told limit (.ok (.ofNat 1))⟩ = true := by
  subst hcheck
  have hone : 1 ≤ limit.requests.toNat := UInt32.lt_iff_toNat_lt.1 hpos
  have hwithin := (Limiter.within_ofNat limit.requests (i := 1) (by decide)).2 hone
  show Answer.isAdmitted (.verdict (Limiter.verdict limit (.ok (.ofNat 1)))) = true
  rw [Limiter.verdict, if_pos hwithin]
  rfl

theorem Counted.isAdmitted_head {i : Nat} {stop : Instant} {s : Served} {rest : List Served}
    (h : Counted limit i stop (s :: rest)) (hpos : 0 < limit.requests)
    (hcheck : s.request = .check) (hstop : stop ≤ s.time) : s.isAdmitted = true := by
  cases h with
  | inside hinside _ => exact absurd hinside (Nat.not_lt.2 hstop)
  | after _ _ => exact isAdmitted_first hpos hcheck

/-- A window's length after any request, the next check finds a window of its own. -/
theorem Counted.isAdmitted {i : Nat} {stop : Instant} {log : List Served}
    (h : Counted limit i stop log) (hpos : 0 < limit.requests)
    (hsorted : log.Pairwise (·.time ≤ ·.time))
    (hstop : ∀ s ∈ log, stop ≤ s.time + limit.window.toNanos) {k : Nat} {s s' : Served}
    (hs : log[k]? = some s) (hs' : log[k + 1]? = some s') (hcheck : s'.request = .check)
    (hwait : s.time + limit.window.toNanos ≤ s'.time) : s'.isAdmitted = true := by
  induction h generalizing k with
  | nil i stop => cases hs
  | @inside i stop t r rest hinside hrest ih =>
    obtain ⟨-, hsorted⟩ := List.pairwise_cons.1 hsorted
    have hstop' := hstop _ List.mem_cons_self
    cases k with
    | zero =>
      cases hs
      cases rest with
      | nil => cases hs'
      | cons first rest =>
        cases hs'
        exact hrest.isAdmitted_head hpos hcheck (Nat.le_trans hstop' hwait)
    | succ k => exact ih hsorted (fun s hs => hstop s (List.mem_cons_of_mem _ hs)) hs hs'
  | @after i stop t r rest hafter hrest ih =>
    obtain ⟨hlater, hsorted⟩ := List.pairwise_cons.1 hsorted
    cases k with
    | zero =>
      cases hs
      cases rest with
      | nil => cases hs'
      | cons first rest =>
        cases hs'
        exact hrest.isAdmitted_head hpos hcheck hwait
    | succ k =>
      exact ih hsorted (fun s hs => Nat.add_le_add_right (hlater s hs) _) hs hs'

/-- A request is told to wait for the whole seconds of the window. -/
theorem retryAfter?_told {r : Request} {count : StoreAnswer} {secs : UInt64}
    (h : (r.told limit count).retryAfter? = some secs) : secs = limit.windowSecs := by
  cases r with
  | remaining => cases h
  | budget clock => cases h
  | check =>
    have h : Answer.retryAfter? (.verdict (Limiter.verdict limit count)) = some secs := h
    cases count with
    | error fault => cases h
    | ok count =>
      rw [Limiter.verdict] at h
      split at h
      · cases h
      · cases h
        rfl

theorem Counted.retryAfter? {i : Nat} {stop : Instant} {log : List Served}
    (h : Counted limit i stop log) {k : Nat} {s : Served} (hs : log[k]? = some s) {secs : UInt64}
    (hsecs : s.answer.retryAfter? = some secs) : secs = limit.windowSecs := by
  induction h generalizing k with
  | nil i stop => cases hs
  | inside hinside hrest ih =>
    cases k with
    | zero =>
      cases hs
      exact retryAfter?_told hsecs
    | succ k => exact ih hs
  | after hafter hrest ih =>
    cases k with
    | zero =>
      cases hs
      exact retryAfter?_told hsecs
    | succ k => exact ih hs

/-- A limiter that is not enabled tells nobody to wait. -/
theorem retryAfter?_served (h : ¬ l.settings.enabled = true) {s : Served}
    (hs : s ∈ served l scopeName limit m events) : s.answer.retryAfter? = none := by
  induction events generalizing m with
  | nil => cases hs
  | cons e rest ih =>
    obtain ⟨t, event⟩ := e
    cases event with
    | call c => exact ih hs
    | purge => exact ih hs
    | request r =>
      rw [served, Request.put_eq_of_disabled h] at hs
      rcases List.mem_cons.1 hs with rfl | hs
      · cases r <;> rfl
      · exact ih hs

theorem toNanos_windowSecs (limit : Limit) :
    limit.window.toNanos = (Duration.ofSecs limit.windowSecs).toNanos + limit.window.nanos.val := by
  rw [Duration.toNanos, Duration.toNanos, Duration.ofSecs, Limit.windowSecs]
  simp

/-- Together with what is left out of the window, the time named is enough. -/
theorem InUse.waitIsEnough (h : InUse l scopeName limit m events) (hpos : 0 < limit.requests)
    {extra : Nat} (hextra : limit.window.nanos.val ≤ extra) :
    WaitIsEnough extra (served l scopeName limit m events) := by
  intro i s s' secs hs hsecs hs' hcheck hwait
  by_cases henabled : l.settings.enabled = true
  · have hcounted := h.counted henabled
    rw [hcounted.retryAfter? hs hsecs] at hwait
    have hlater : s.time + limit.window.toNanos ≤ s'.time := by
      rw [toNanos_windowSecs, ← Nat.add_assoc]
      exact Nat.le_trans (Nat.add_le_add_left hextra _) hwait
    exact hcounted.isAdmitted hpos (sorted_served h.sorted m) (fun _ _ => Nat.zero_le _) hs hs'
      hcheck hlater
  · rw [retryAfter?_served henabled (List.mem_of_getElem? hs)] at hsecs
    cases hsecs

/-! ### Less than that is not -/

theorem getElem?_served (l : Limiter) (scopeName : String) (limit : Limit) (m : Memory) {k : Nat}
    {t : Instant} {r : Request} (h : (requests events)[k]? = some (t, r)) :
    ∃ s, (served l scopeName limit m events)[k]? = some s ∧ s.time = t ∧ s.request = r := by
  rw [← @served_requests l scopeName limit m, List.getElem?_map] at h
  obtain ⟨s, hs, hplace⟩ := Option.map_eq_some_iff.1 h
  exact ⟨s, hs, congrArg Prod.fst hplace, congrArg Prod.snd hplace⟩

theorem length_served (l : Limiter) (scopeName : String) (limit : Limit) (m : Memory)
    (events : List (Instant × Event)) :
    (served l scopeName limit m events).length = (requests events).length := by
  rw [← @served_requests l scopeName limit m, List.length_map]

/-- All in the first window, the requests are told what is due to them in turn. -/
theorem InUse.inTurn (h : InUse l scopeName limit m events)
    (henabled : l.settings.enabled = true)
    (hwithin : ∀ e ∈ requests events, e.1 < limit.window.toNanos)
    (hlength : (requests events).length ≤ Int64.maxValue.toInt) :
    InTurn limit (served l scopeName limit m events) := by
  rw [← length_served l scopeName limit m] at hlength
  refine Tallied.inTurn ?_ hlength
  have hwindows := tallied_windows henabled h.sorted h.others h.fits h.idle
  have hbefore : ∀ s ∈ served l scopeName limit m events, s.time < limit.window.toNanos := by
    intro s hs
    refine hwithin (s.time, s.request) ?_
    rw [← @served_requests l scopeName limit m]
    exact List.mem_map_of_mem hs
  cases hlog : served l scopeName limit m events with
  | nil => exact tallied_nil limit 0
  | cons s rest =>
    rw [hlog] at hbefore hwindows
    have hrest : rest.takeWhile (·.isBefore (s.time + limit.window.toNanos)) = rest := by
      refine List.takeWhile_eq_self_iff.2 fun s' hs' => decide_eq_true ?_
      exact Nat.lt_of_lt_of_le (hbefore s' (List.mem_cons_of_mem s hs')) (Nat.le_add_left _ _)
    rw [windows, hrest] at hwindows
    exact hwindows _ List.mem_cons_self

theorem retryAfter?_due {i : Nat} (hi : limit.requests.toNat < i) :
    (Request.check.due limit i).retryAfter? = some limit.windowSecs := by
  rw [Request.due, if_neg (Nat.not_le.2 hi)]
  rfl

theorem isSome_add?_of_le {now later : Instant} {d : Duration} (hle : now ≤ later)
    (h : (Instant.add? later d).isSome = true) : (Instant.add? now d).isSome = true := by
  rw [Instant.add?] at h ⊢
  split at h
  · next hfits =>
    rw [if_pos (Nat.lt_of_le_of_lt (Nat.add_le_add_right hle _) hfits)]
    rfl
  · cases h

/-- One check too many at the start of the clock, and one more at this instant. -/
def hurried (limit : Limit) (retry : Instant) : List (Instant × Event) :=
  List.replicate (limit.requests.toNat + 1) (0, .request .check) ++ [(retry, .request .check)]

theorem mem_hurried {retry : Instant} {e : Instant × Event} (he : e ∈ hurried limit retry) :
    e.1 ≤ retry ∧ e.2 = .request .check := by
  rcases List.mem_append.1 he with he | he
  · rw [List.eq_of_mem_replicate he]
    exact ⟨Nat.zero_le retry, rfl⟩
  · rw [List.mem_singleton.1 he]
    exact ⟨Nat.le_refl retry, rfl⟩

theorem requests_hurried (limit : Limit) (retry : Instant) :
    requests (hurried limit retry) =
      List.replicate (limit.requests.toNat + 1) (0, .check) ++ [(retry, .check)] := by
  rw [hurried, requests, List.filterMap_append, List.filterMap_replicate]
  rfl

theorem inUse_hurried (l : Limiter) (scopeName : String) {retry : Instant}
    (hfits : (Instant.add? retry limit.window).isSome = true) :
    InUse l scopeName limit .empty (hurried limit retry) where
  sorted := by
    refine List.pairwise_append.2 ⟨List.pairwise_replicate.2 (Or.inr (Nat.le_refl 0)),
      List.pairwise_singleton _ _, fun e he e' he' => ?_⟩
    rw [List.mem_singleton.1 he']
    exact (mem_hurried (List.mem_append_left _ he)).1
  others e he ttl := by
    rw [(mem_hurried he).2]
    exact Event.noConfusion
  fits t r he := isSome_add?_of_le (mem_hurried he).1 hfits
  idle e _ := Memory.live?_empty e.1 _

/-- A check that comes after the wait but in the same window is one too many, too. -/
theorem not_waitIsEnough_hurried (henabled : l.settings.enabled = true) (scopeName : String)
    {extra : Nat} {retry : Instant}
    (hwait : (Duration.ofSecs limit.windowSecs).toNanos + extra ≤ retry)
    (hinside : retry < limit.window.toNanos)
    (hfits : (Instant.add? retry limit.window).isSome = true) :
    ¬ WaitIsEnough extra (served l scopeName limit .empty (hurried limit retry)) := by
  have hplaces := requests_hurried limit retry
  have hturn : InTurn limit (served l scopeName limit .empty (hurried limit retry)) := by
    refine (inUse_hurried l scopeName hfits).inTurn henabled (fun e he => ?_) ?_
    · rw [hplaces] at he
      rcases List.mem_append.1 he with he | he
      · rw [List.eq_of_mem_replicate he]
        exact Nat.lt_of_le_of_lt (Nat.zero_le retry) hinside
      · rw [List.mem_singleton.1 he]
        exact hinside
    · have hlimit := limit.requests.toNat_lt
      rw [hplaces, Int64.toInt_maxValue, List.length_append, List.length_replicate,
        List.length_singleton]
      omega
  intro henough
  have hlast : (requests (hurried limit retry))[limit.requests.toNat]? = some (0, .check) := by
    rw [hplaces, List.getElem?_append_left (by simp),
      List.getElem?_replicate_of_lt (Nat.lt_succ_self _)]
  have hnext : (requests (hurried limit retry))[limit.requests.toNat + 1]? =
      some (retry, .check) := by
    rw [hplaces]
    simp
  obtain ⟨s, hs, htime, hcheck⟩ := getElem?_served l scopeName limit .empty hlast
  obtain ⟨s', hs', htime', hcheck'⟩ := getElem?_served l scopeName limit .empty hnext
  have htold : s.answer.retryAfter? = some limit.windowSecs := by
    rw [hturn _ s hs, hcheck]
    exact retryAfter?_due (Nat.lt_succ_self _)
  have hlater : s.time + (Duration.ofSecs limit.windowSecs).toNanos + extra ≤ s'.time := by
    rw [htime, htime', Nat.zero_add]
    exact hwait
  have hadmitted := henough _ s s' _ hs htold hs' hcheck' hlater
  have hlt := ((hturn.isAdmitted_iff hs').1 hadmitted).2
  omega

end

/-- **Waiting for the time named, and for what it leaves out.** Take any limit that was made
of a number of requests and a window, and a client that waits for the seconds it was told and
`extra` nanoseconds. If these are as long as the part of a second in the window, the next
check is let pass, in every run and for every request that was told to wait; if the window is
in whole seconds, none are needed. If they are shorter, there is for every scope a run of
checks in which that wait was not enough. -/
theorem wait_for_window (n : UInt32) (window : Duration) (limit : Limit) (extra : Nat)
    (hmake : Limit.make n window = .ok limit) :
    (window.nanos.val ≤ extra → ∀ l scopeName m events, InUse l scopeName limit m events →
      WaitIsEnough extra (served l scopeName limit m events)) ∧
    (extra < window.nanos.val →
      (Instant.add? ((Duration.ofSecs window.secs).toNanos + extra) window).isSome = true →
      ∀ (l : Limiter) (scopeName : String), l.settings.enabled = true →
        ∃ events : List (Instant × Event), (∀ e ∈ events, e.2 = .request .check) ∧
          InUse l scopeName limit .empty events ∧
          ¬ WaitIsEnough extra (served l scopeName limit .empty events)) := by
  obtain ⟨hn, -, rfl⟩ := (Limit.make_eq_ok_iff n window limit).1 hmake
  have hpos : 0 < n := UInt32.pos_iff_ne_zero.2 hn
  refine ⟨fun hextra l scopeName m events h => h.waitIsEnough hpos hextra,
    fun hshort hfits l scopeName henabled =>
      ⟨_, fun e he => (mem_hurried he).2, inUse_hurried l scopeName hfits, ?_⟩⟩
  have hinside : (Duration.ofSecs window.secs).toNanos + extra < window.toNanos := by
    rw [toNanos_windowSecs ⟨n, window⟩]
    exact Nat.add_lt_add_left hshort _
  exact not_waitIsEnough_hurried henabled scopeName (Nat.le_refl _) hinside hfits

/-- A request in a second and a half. -/
def sampleLimit : Limit := ⟨1, .ofMillis 1500⟩

/-- The second check is told to wait for one second, and so is the third, which comes a second
later. The last one comes a second and a half after that. -/
def sampleWaits : List (Instant × Event) :=
  [(0, .request .check), (100000000, .request .check), (200000000, .purge),
    (1100000000, .request .check), (1200000000, .call (.increment "sessions" (.ofSecs 60))),
    (2600000000, .request .check)]

theorem inUse_sampleWaits : InUse ⟨{}⟩ "login" sampleLimit .empty sampleWaits where
  sorted := by decide
  others := by
    simp [sampleWaits]
    decide
  fits t r he := by
    have hbefore : ∀ e ∈ sampleWaits, e.1 ≤ 2600000000 := by decide
    exact isSome_add?_of_le (hbefore _ he) (by decide)
  idle e _ := Memory.live?_empty e.1 _

theorem wait_at_sampleLimit :
    (served ⟨{}⟩ "login" sampleLimit .empty sampleWaits).map
        (fun s => (s.answer.retryAfter?, s.isAdmitted)) =
      [(none, true), (some 1, false), (some 1, false), (none, true)] ∧
    WaitIsEnough 500000000 (served ⟨{}⟩ "login" sampleLimit .empty sampleWaits) ∧
    ∃ events, (∀ e ∈ events, e.2 = .request .check) ∧
      InUse ⟨{}⟩ "login" sampleLimit .empty events ∧
      ¬ WaitIsEnough 0 (served ⟨{}⟩ "login" sampleLimit .empty events) :=
  ⟨rfl,
    (wait_for_window 1 (.ofMillis 1500) sampleLimit 500000000 rfl).1 (Nat.le_refl _) ⟨{}⟩ "login"
      .empty sampleWaits inUse_sampleWaits,
    (wait_for_window 1 (.ofMillis 1500) sampleLimit 0 rfl).2 (by decide) (by decide) ⟨{}⟩ "login"
      rfl⟩

/-- So the time named is not enough for every limit. -/
theorem window_outlasts_wait :
    ¬ ∀ (n : UInt32) (window : Duration) (limit : Limit), Limit.make n window = .ok limit →
      ∀ l scopeName m events, (∀ e ∈ events, e.2 = .request .check) →
        InUse l scopeName limit m events →
        WaitIsEnough 0 (served l scopeName limit m events) := by
  intro h
  have hinUse : InUse ⟨{}⟩ "login" sampleLimit .empty (hurried sampleLimit 1000000000) :=
    inUse_hurried ⟨{}⟩ "login" (by decide)
  have henough := h 1 (.ofMillis 1500) sampleLimit rfl ⟨{}⟩ "login" .empty
    (hurried sampleLimit 1000000000) (fun e he => (mem_hurried he).2) hinUse
  have hadmitted := henough 1 _ _ 1 rfl rfl rfl rfl (by decide)
  exact Bool.noConfusion (hadmitted : false = true)

end Turnstile

import Turnstile.Proofs.Rate.Request
import Turnstile.Proofs.Rate.Slowmode

/-!
# Intervals that change

Each message brings the interval that its channel requires at that moment, and is checked while
no other is. A marker keeps the interval that it was set with; a message that finds it is told
to wait for its own. So the time named can be too short if the interval was made shorter in
between, and in no other case.

    sent l userId channelId m events     the messages, each with what its sender was told
    live? is a marker until stop         what a run keeps                          (paced_sent)
    let pass just if the last message
    let pass is its interval ago         what it comes to                (Paced.isAdmitted_iff)
    the time named is enough unless the interval was made shorter          (wait_for_interval)
-/

namespace Turnstile

open Dialogue Limiter

/-- What happens at the store while a user writes in a channel. -/
inductive ChannelEvent where
  /-- A message, sent while the channel requires this interval. -/
  | message (secs : Int64)
  /-- A call of another computation. -/
  | call (c : StoreCall)
  | purge

def ChannelEvent.interval? : ChannelEvent → Option Int64
  | .message secs => some secs
  | _ => none

/-- A message, when it was sent and under which interval, and what its sender was told. -/
structure Sent where
  time : Instant
  secs : Int64
  answer : Answer

def Sent.isAdmitted (s : Sent) : Bool := s.answer.isAdmitted

/-- The messages sent as these events happen one after the other. -/
def sent (l : Limiter) (userId channelId : Uuid) :
    Memory → List (Instant × ChannelEvent) → List Sent
  | _, [] => []
  | m, (t, .message secs) :: rest =>
    let record := hold (Memory.answer t) m (l.checkSlowmode userId channelId secs)
    ⟨t, secs, .verdict record.result⟩ :: sent l userId channelId record.state rest
  | m, (t, .call c) :: rest => sent l userId channelId (m.answer t c).2 rest
  | m, (t, .purge) :: rest => sent l userId channelId (m.purge t).2 rest

/-- The last of these messages that was let pass. -/
def lastPassed? (before : List Sent) : Option Sent := (before.filter (·.isAdmitted)).getLast?

/-- A channel under slowmode. Time does not go back, the intervals are positive and the clock can
show their ends, only messages count the marker, and there is none yet. -/
structure UnderSlowmode (l : Limiter) (userId channelId : Uuid) (m : Memory)
    (events : List (Instant × ChannelEvent)) : Prop where
  sorted : events.Pairwise (·.1 ≤ ·.1)
  positive : ∀ e ∈ events, ∀ secs ∈ e.2.interval?, 0 < secs
  fits : ∀ e ∈ events, ∀ secs ∈ e.2.interval?,
    (Instant.add? e.1 (.ofSecs secs.toUInt64)).isSome = true
  others : ∀ e ∈ events, ∀ ttl, e.2 ≠ .call (.increment (l.markerKey userId channelId) ttl)
  idle : ∀ e ∈ events, m.live? e.1 (l.markerKey userId channelId) = none

/-- Each message finds the marker, which stays until `stop`, and is told its own interval, or it
comes when that is over and sets the marker for its own. -/
inductive Paced : Instant → List Sent → Prop
  | nil (stop : Instant) : Paced stop []
  | denied {stop t : Instant} {secs : Int64} {rest : List Sent} : 0 < secs → t < stop →
      Paced stop rest →
      Paced stop (⟨t, secs, .verdict (.error (.slowmode secs.toUInt64 secs.toUInt64))⟩ :: rest)
  | passed {stop t : Instant} {secs : Int64} {rest : List Sent} : 0 < secs → ¬ t < stop →
      Paced (t + slowmodeNanos secs) rest → Paced stop (⟨t, secs, .verdict (.ok ())⟩ :: rest)

section
variable {l : Limiter} {userId channelId : Uuid} {secs : Int64} {m : Memory}
  {events : List (Instant × ChannelEvent)}

/-! ## A run, message by message -/

/-- While the marker is there a check looks for it, and that is all. -/
theorem hold_checkSlowmode_inside (hpos : 0 < secs) {t stop : Instant}
    (hm : m.live? t (l.markerKey userId channelId) = counterAt 1 stop t) (hinside : t < stop) :
    (hold (Memory.answer t) m (l.checkSlowmode userId channelId secs)).result =
        .error (.slowmode secs.toUInt64 secs.toUInt64) ∧
      (hold (Memory.answer t) m (l.checkSlowmode userId channelId secs)).state = m := by
  rw [counterAt, if_pos hinside] at hm
  rw [checkSlowmode_pos hpos, hold_ask]
  show (hold _ m (l.sought userId channelId secs (m.read t _))).result = _ ∧
    (hold _ m (l.sought userId channelId secs (m.read t _))).state = _
  rcases sought_read l userId channelId secs t m with ⟨_, -, hnext⟩ | ⟨hnone, -⟩
  · rw [hnext]
    exact ⟨rfl, rfl⟩
  · cases hm.symm.trans hnone

/-- When it is over a check sets it anew, for an interval of its own. -/
theorem hold_checkSlowmode_after (hpos : 0 < secs) {t stop : Instant}
    (hm : m.live? t (l.markerKey userId channelId) = counterAt 1 stop t) (hafter : ¬ t < stop)
    (hfits : (Instant.add? t (.ofSecs secs.toUInt64)).isSome = true) :
    (hold (Memory.answer t) m (l.checkSlowmode userId channelId secs)).result = .ok () ∧
      ∀ later, (hold (Memory.answer t) m (l.checkSlowmode userId channelId secs)).state.live? later
        (l.markerKey userId channelId) = counterAt 1 (t + slowmodeNanos secs) later := by
  obtain ⟨hcount, hnext⟩ := increment_after hm hafter hfits
  rw [ofSecs_toNanos hpos] at hnext
  rw [checkSlowmode_pos hpos, hold_ask]
  show (hold _ m (l.sought userId channelId secs (m.read t _))).result = _ ∧
    ∀ later, (hold _ m (l.sought userId channelId secs (m.read t _))).state.live? later _ = _
  rcases sought_read l userId channelId secs t m with ⟨c, hc, -⟩ | ⟨-, hmarking⟩
  · rw [counterAt, if_neg hafter] at hm
    cases hm.symm.trans hc
  · rw [hmarking, marking_eq]
    refine ⟨?_, hnext⟩
    show marked secs (.ok (m.increment t _ _).1) = _
    rw [hcount]
    rfl

/-- What a run keeps: there is a marker until `stop`, and each message finds it or sets the
next. -/
theorem paced_sent (hsorted : events.Pairwise (·.1 ≤ ·.1))
    (hpositive : ∀ e ∈ events, ∀ secs ∈ e.2.interval?, 0 < secs)
    (hfits : ∀ e ∈ events, ∀ secs ∈ e.2.interval?,
      (Instant.add? e.1 (.ofSecs secs.toUInt64)).isSome = true)
    (hothers : ∀ e ∈ events, ∀ ttl, e.2 ≠ .call (.increment (l.markerKey userId channelId) ttl))
    {m : Memory} {stop : Instant}
    (hm : ∀ e ∈ events, m.live? e.1 (l.markerKey userId channelId) = counterAt 1 stop e.1) :
    Paced stop (sent l userId channelId m events) := by
  induction events generalizing m stop with
  | nil => exact .nil stop
  | cons e rest ih =>
    obtain ⟨t, event⟩ := e
    obtain ⟨hlater, hsorted⟩ := List.pairwise_cons.1 hsorted
    have ih := @ih hsorted (fun e he => hpositive e (List.mem_cons_of_mem _ he))
      (fun e he => hfits e (List.mem_cons_of_mem _ he))
      (fun e he => hothers e (List.mem_cons_of_mem _ he))
    have hnow := hm _ List.mem_cons_self
    have hrest := fun e he => hm e (List.mem_cons_of_mem _ he)
    cases event with
    | message secs =>
      have hpos := hpositive _ List.mem_cons_self secs rfl
      rw [sent]
      by_cases hinside : t < stop
      · obtain ⟨hresult, hstate⟩ := hold_checkSlowmode_inside hpos hnow hinside
        rw [hresult, hstate]
        exact .denied hpos hinside (ih hrest)
      · obtain ⟨hresult, hnext⟩ :=
          hold_checkSlowmode_after hpos hnow hinside (hfits _ List.mem_cons_self secs rfl)
        rw [hresult]
        exact .passed hpos hinside (ih fun e _ => hnext e.1)
    | call c =>
      have hc : ∀ ttl, c ≠ .increment (l.markerKey userId channelId) ttl := by
        rintro ttl rfl
        exact hothers _ List.mem_cons_self ttl rfl
      rw [sent]
      exact ih fun e he => by rw [m.live?_answer_of_ne t e.1 hc, hrest e he]
    | purge =>
      rw [sent]
      exact ih fun e he => by rw [m.live?_purge (hlater e he), hrest e he]

theorem times_sent_sublist (m : Memory) :
    ((sent l userId channelId m events).map (·.time)).Sublist (events.map (·.1)) := by
  induction events generalizing m with
  | nil => exact .slnil
  | cons e rest ih =>
    obtain ⟨t, event⟩ := e
    cases event with
    | message secs => exact (ih _).cons_cons t
    | call c => exact (ih _).cons t
    | purge => exact (ih _).cons t

theorem UnderSlowmode.sorted_sent (h : UnderSlowmode l userId channelId m events) :
    (sent l userId channelId m events).Pairwise (·.time ≤ ·.time) :=
  List.pairwise_map.1 ((List.pairwise_map.2 h.sorted).sublist (times_sent_sublist m))

theorem UnderSlowmode.paced (h : UnderSlowmode l userId channelId m events) :
    Paced 0 (sent l userId channelId m events) := by
  refine paced_sent h.sorted h.positive h.fits h.others fun e he => ?_
  rw [h.idle e he, counterAt_zero]

end

/-! ## The last message that was let pass -/

/-- Until when the marker stays after these messages. -/
def markedUntil (stop : Instant) (before : List Sent) : Instant :=
  ((lastPassed? before).map fun s => s.time + slowmodeNanos s.secs).getD stop

section
variable {stop : Instant} {s : Sent} {before log : List Sent}

theorem mem_of_lastPassed? {last : Sent} (h : lastPassed? before = some last) : last ∈ before :=
  (List.mem_filter.1 (List.mem_of_getLast? h)).1

theorem lastPassed?_concat_of_neg (h : ¬ s.isAdmitted = true) :
    lastPassed? (before ++ [s]) = lastPassed? before := by
  rw [lastPassed?, List.filter_append, List.filter_cons_of_neg h, List.filter_nil,
    List.append_nil, lastPassed?]

theorem lastPassed?_cons_of_neg (h : ¬ s.isAdmitted = true) :
    lastPassed? (s :: before) = lastPassed? before := by
  rw [lastPassed?, List.filter_cons_of_neg h, lastPassed?]

theorem lastPassed?_cons_of_pos (h : s.isAdmitted = true) :
    lastPassed? (s :: before) = some ((lastPassed? before).getD s) := by
  rw [lastPassed?, List.filter_cons_of_pos h, List.getLast?_cons, lastPassed?]

theorem markedUntil_cons_of_pos (h : s.isAdmitted = true) :
    markedUntil stop (s :: before) = markedUntil (s.time + slowmodeNanos s.secs) before := by
  rw [markedUntil, lastPassed?_cons_of_pos h, markedUntil, Option.map_some, Option.getD_some]
  cases lastPassed? before with
  | none => rw [Option.getD_none, Option.map_none, Option.getD_none]
  | some s₀ => rw [Option.getD_some, Option.map_some, Option.getD_some]

theorem markedUntil_le_iff {t : Instant} :
    markedUntil 0 before ≤ t ↔
      ∀ s₀ ∈ lastPassed? before, s₀.time + slowmodeNanos s₀.secs ≤ t := by
  rw [markedUntil]
  cases lastPassed? before with
  | none =>
    rw [Option.map_none, Option.getD_none]
    exact ⟨fun _ _ h => (nomatch h), fun _ => Nat.zero_le t⟩
  | some s₀ =>
    rw [Option.map_some, Option.getD_some]
    exact ⟨fun hle s hs => Option.mem_some.1 hs ▸ hle, fun hall => hall s₀ rfl⟩

theorem time_le_of_mem_take (hsorted : log.Pairwise (·.time ≤ ·.time)) {j : Nat}
    (hj : log[j]? = some s) {earlier : Sent} (h : earlier ∈ log.take j) :
    earlier.time ≤ s.time := by
  rw [← List.take_append_drop j log] at hsorted
  have hdrop : (log.drop j)[0]? = some s := by rw [List.getElem?_drop, Nat.add_zero, hj]
  exact (List.pairwise_append.1 hsorted).2.2 earlier h s (List.mem_of_getElem? hdrop)

/-- A message is let pass just if the marker is over that the last one before it set. -/
theorem Paced.isAdmitted_iff (h : Paced stop log) {j : Nat} (hj : log[j]? = some s) :
    s.isAdmitted = true ↔ markedUntil stop (log.take j) ≤ s.time := by
  induction h generalizing j with
  | nil => cases hj
  | denied hpos hinside hrest ih =>
    cases j with
    | zero =>
      cases hj
      exact ⟨fun hpassed => Bool.noConfusion hpassed, fun hle => absurd hinside (Nat.not_lt.2 hle)⟩
    | succ j =>
      rw [List.take_succ_cons, markedUntil, lastPassed?_cons_of_neg Bool.noConfusion]
      exact ih hj
  | passed hpos hafter hrest ih =>
    cases j with
    | zero =>
      cases hj
      exact ⟨fun _ => Nat.not_lt.1 hafter, fun _ => rfl⟩
    | succ j =>
      rw [List.take_succ_cons, markedUntil_cons_of_pos rfl]
      exact ih hj

/-- Who is told to wait is told the own interval. -/
theorem Paced.retryAfter? (h : Paced stop log) {j : Nat} (hj : log[j]? = some s) {r : UInt64}
    (hr : s.answer.retryAfter? = some r) :
    (Duration.ofSecs r).toNanos = slowmodeNanos s.secs ∧ ¬ s.isAdmitted = true := by
  induction h generalizing j with
  | nil => cases hj
  | denied hpos hinside hrest ih =>
    cases j with
    | zero =>
      cases hj
      cases hr
      exact ⟨ofSecs_toNanos hpos, Bool.false_ne_true⟩
    | succ j => exact ih hj
  | passed hpos hafter hrest ih =>
    cases j with
    | zero =>
      cases hj
      cases hr
    | succ j => exact ih hj

theorem slowmodeNanos_mono {a b : Int64} (h : a ≤ b) : slowmodeNanos a ≤ slowmodeNanos b :=
  Nat.mul_le_mul_right _ (Int.toNat_le_toNat (Int64.le_iff_toInt_le.1 h))

end

/-- **The interval of the last message counts.** While moderators change the interval of a
channel, the messages of a user are let pass just if that of the last one that was let pass is
over, whatever was denied since then. So whoever was told to wait, and waits that long, is let
pass if the interval was not made shorter since that message. -/
theorem wait_for_interval (l : Limiter) (userId channelId : Uuid) (m : Memory)
    (events : List (Instant × ChannelEvent)) (h : UnderSlowmode l userId channelId m events) :
    let log := sent l userId channelId m events
    (∀ j s, log[j]? = some s → (s.isAdmitted = true ↔
      ∀ last ∈ lastPassed? (log.take j), last.time + slowmodeNanos last.secs ≤ s.time)) ∧
    (∀ j s s' secs, log[j]? = some s → s.answer.retryAfter? = some secs → log[j + 1]? = some s' →
      s.time + (Duration.ofSecs secs).toNanos ≤ s'.time →
      (∀ last ∈ lastPassed? (log.take j), last.secs ≤ s.secs) → s'.isAdmitted = true) := by
  intro log
  have hpaced : Paced 0 log := h.paced
  have hiff : ∀ j s, log[j]? = some s → (s.isAdmitted = true ↔
      ∀ last ∈ lastPassed? (log.take j), last.time + slowmodeNanos last.secs ≤ s.time) :=
    fun j s hj => (hpaced.isAdmitted_iff hj).trans markedUntil_le_iff
  refine ⟨hiff, fun j s s' secs hj hsecs hj' hwait hlonger => (hiff (j + 1) s' hj').2 ?_⟩
  obtain ⟨htold, hdenied⟩ := hpaced.retryAfter? hj hsecs
  rw [htold] at hwait
  -- the message that was denied is not the last one let pass
  have hlast : lastPassed? (log.take (j + 1)) = lastPassed? (log.take j) := by
    rw [List.take_add_one, hj]
    exact lastPassed?_concat_of_neg hdenied
  intro last hmem
  rw [hlast] at hmem
  have hbefore : last.time ≤ s.time :=
    time_le_of_mem_take h.sorted_sent hj (mem_of_lastPassed? hmem)
  exact Nat.le_trans (Nat.add_le_add hbefore (slowmodeNanos_mono (hlonger last hmem))) hwait

/-! ## An interval of ten seconds, then of two, then of five -/

/-- A moderator makes the interval shorter after the first message, and longer after the one
that is let pass next. -/
def sampleMessages : List (Instant × ChannelEvent) :=
  [(0, .message 10), (1000000000, .message 2), (2000000000, .purge), (3000000000, .message 2),
    (10000000000, .message 2), (11000000000, .message 5),
    (12000000000, .call (.increment "sessions" (.ofSecs 60))), (16000000000, .message 5)]

theorem underSlowmode_sampleMessages :
    UnderSlowmode ⟨{}⟩ ⟨1⟩ ⟨2⟩ .empty sampleMessages where
  sorted := by decide
  positive := by simp [sampleMessages, ChannelEvent.interval?]
  fits := by
    simp [sampleMessages, ChannelEvent.interval?]
    decide
  others := by
    simp [sampleMessages]
    decide
  idle e _ := Memory.live?_empty e.1 _

theorem wait_of_sampleMessages :
    (sent ⟨{}⟩ ⟨1⟩ ⟨2⟩ .empty sampleMessages).map (fun s => (s.answer.retryAfter?, s.isAdmitted)) =
      [(none, true), (some 2, false), (some 2, false), (none, true), (some 5, false),
        (none, true)] ∧
    ∀ s, (sent ⟨{}⟩ ⟨1⟩ ⟨2⟩ .empty sampleMessages)[5]? = some s → s.isAdmitted = true := by
  obtain ⟨-, hwait⟩ := wait_for_interval ⟨{}⟩ ⟨1⟩ ⟨2⟩ .empty sampleMessages
    underSlowmode_sampleMessages
  refine ⟨rfl, fun s hs => ?_⟩
  refine hwait 4 _ s 5 rfl rfl hs ?_ ?_
  · cases hs
    decide
  · decide

/-- So a wait that was named is not always long enough. -/
theorem marker_outlasts_wait :
    ¬ ∀ (l : Limiter) (userId channelId : Uuid) (m : Memory)
      (events : List (Instant × ChannelEvent)), UnderSlowmode l userId channelId m events →
      ∀ j s s' secs, (sent l userId channelId m events)[j]? = some s →
        s.answer.retryAfter? = some secs → (sent l userId channelId m events)[j + 1]? = some s' →
        s.time + (Duration.ofSecs secs).toNanos ≤ s'.time → s'.isAdmitted = true := by
  intro h
  have hadmitted := h ⟨{}⟩ ⟨1⟩ ⟨2⟩ .empty sampleMessages underSlowmode_sampleMessages 1 _ _ 2
    rfl rfl rfl (by decide)
  exact Bool.noConfusion (hadmitted : false = true)

end Turnstile

import Turnstile.Proofs.Rate.Isolation

/-!
# Requests that were denied

A denied check is counted all the same, so a store that saw it is not the store that did not.
But nobody can tell: the two counters end at the same time, and are the same unless both have
come up to the limit, where whatever is asked gets one answer. A denied message is not even
counted. So a client that keeps on trying neither prolongs its own wait nor delays others.

    c.meet l t o                 a call, told from the counter of its scope        (hold_put)
    Alike most rest o o'         what a call keeps if both runs have it            (Alike.meet)
                                 or if it was denied and one is without it  (Alike.meet_denied)
    Shadows l most timed m m'    the same for whole stores        (Shadows.kept, .leftOut, .run)
    a run without some of its denied calls is answered as before      (serve_without_denied)
-/

namespace Turnstile

/-- The elements without those at some of the places. -/
def without {α : Type} : (Nat → Bool) → List α → List α
  | _, [] => []
  | deleted, a :: rest =>
    if deleted 0 then without (fun i => deleted (i + 1)) rest
    else a :: without (fun i => deleted (i + 1)) rest

def Answer.isDenied : Answer → Bool
  | .verdict (.error _) => true
  | _ => false

namespace ScopedCall

/-- A request is held to the number of its scope, which is not zero. -/
def HeldTo (most : Scope → UInt32) : ScopedCall → Prop
  | .request s limit _ => limit.requests = most s ∧ 0 < limit.requests
  | .slowmode .. => True

/-- What a call is told that finds this counter in its scope, and the counter it leaves. A
limiter that is not enabled tells what is told when the store fails. -/
def meet (l : Limiter) (t : Instant) (o : Option Counter) : ScopedCall → Answer × Option Counter
  | .request _ limit r =>
    if l.settings.enabled then
      (r.told limit (.ok (Counter.next o t limit.window).count),
        some (Counter.next o t limit.window))
    else (r.told limit (.error .notFound), o)
  | .slowmode _ _ secs =>
    if secs ≤ 0 then (.verdict (.ok ()), o)
    else if (o.filter (·.isLive t)).isSome then
      (.verdict (.error (.slowmode secs.toUInt64 secs.toUInt64)), o)
    else (.verdict (.ok ()), some ⟨1, Instant.deadline t (.ofSecs secs.toUInt64)⟩)

end ScopedCall

/-- How far a counter has come. -/
def Counter.raised (o : Option Counter) : Nat := o.elim 0 (·.count.toInt.toNat)

/-- The number of calls in a scope. -/
def callsIn (s : Scope) (timed : List (Instant × ScopedCall)) : Nat :=
  timed.countP fun e => s = e.2.scope

/-- The counter of a scope in two runs, of which the second is without some denied calls: the
same, or else both have come up to the limit. The first one can count `rest` calls more. -/
inductive Alike (most : UInt32) (rest : Nat) : Option Counter → Option Counter → Prop
  | same {o : Option Counter} : Counter.raised o + rest ≤ Int64.maxValue.toInt → Alike most rest o o
  | full {i j : Int64} {stop : Instant} : most.toNat ≤ j.toInt → j.toInt ≤ i.toInt →
      i.toInt + rest ≤ Int64.maxValue.toInt → Alike most rest (some ⟨i, stop⟩) (some ⟨j, stop⟩)

/-- The stores of two such runs that have these calls before them. -/
def Shadows (l : Limiter) (most : Scope → UInt32) (timed : List (Instant × ScopedCall))
    (m m' : Memory) : Prop :=
  ∀ s : Scope, Alike (most s) (callsIn s timed) (m.find? (l.key s.name)) (m'.find? (l.key s.name))

/-! ## A call and its counter -/

theorem Memory.find?_increment (m : Memory) (t : Instant) (key key' : String) (ttl : Duration) :
    (m.increment t key ttl).2.find? key' =
      if key' = key then some (Counter.next (m.find? key) t ttl) else m.find? key' :=
  m.find?_insert key key' _

theorem Counter.next_of_live {c : Counter} {t : Instant} (h : c.isLive t = true) (ttl : Duration) :
    next (some c) t ttl = ⟨c.count + 1, c.expiresAt⟩ := by
  rw [next, Option.filter_some, if_pos h]

theorem Counter.next_of_dead {o : Option Counter} {t : Instant}
    (h : ¬ (o.filter (·.isLive t)).isSome = true) (ttl : Duration) :
    next o t ttl = ⟨1, Instant.deadline t ttl⟩ := by
  rw [next, Option.not_isSome_iff_eq_none.1 h]

theorem Memory.read_isOk (m : Memory) (t : Instant) (key : String) :
    if ((m.find? key).filter (·.isLive t)).isSome then ∃ count, m.read t key = .ok count
    else m.read t key = .error .notFound := by
  rw [m.read_eq, live?]
  cases (m.find? key).filter (·.isLive t) with
  | none => rfl
  | some c => exact ⟨c.count, rfl⟩

namespace Limiter

variable (l : Limiter) (t : Instant) (m : Memory)

/-- After an increment in a scope, the counters of all scopes. -/
theorem find?_increment_scope (s s' : Scope) (ttl : Duration) :
    (m.increment t (l.key s.name) ttl).2.find? (l.key s'.name) =
      if s' = s then some (Counter.next (m.find? (l.key s.name)) t ttl)
      else m.find? (l.key s'.name) := by
  rw [m.find?_increment]
  by_cases hs : s' = s
  · rw [if_pos hs, if_pos (by rw [hs])]
  · rw [if_neg hs, if_neg fun hkey => hs (key_inj hkey)]

/-- A call depends on the counter of its scope, and leaves all others as they are. -/
theorem hold_put (c : ScopedCall) :
    (Dialogue.hold (Memory.answer t) m (c.put l)).result =
      (c.meet l t (m.find? (l.key c.scope.name))).1 ∧
    ∀ s : Scope, (Dialogue.hold (Memory.answer t) m (c.put l)).state.find? (l.key s.name) =
      if s = c.scope then (c.meet l t (m.find? (l.key c.scope.name))).2
      else m.find? (l.key s.name) := by
  have hidle : ∀ s s' : Scope, m.find? (l.key s'.name) =
      if s' = s then m.find? (l.key s.name) else m.find? (l.key s'.name) := by
    intro s s'
    by_cases hs : s' = s
    · rw [if_pos hs, hs]
    · rw [if_neg hs]
  cases c with
  | request s limit r =>
    rw [ScopedCall.put, ScopedCall.meet, ScopedCall.scope]
    by_cases henabled : l.settings.enabled = true
    · rw [Request.put_eq henabled, if_pos henabled]
      exact ⟨rfl, fun s' => l.find?_increment_scope t m s s' limit.window⟩
    · rw [Request.put_eq_of_disabled henabled, if_neg henabled]
      exact ⟨rfl, hidle s⟩
  | slowmode userId channelId secs =>
    rw [ScopedCall.put, ScopedCall.meet, ScopedCall.scope, l.checkSlowmode_eq]
    by_cases hsecs : secs ≤ 0
    · rw [if_pos hsecs, if_pos hsecs]
      exact ⟨rfl, hidle _⟩
    rw [if_neg hsecs, if_neg hsecs]
    have hread := m.read_isOk t (l.key (Scope.slowmode userId channelId).name)
    split at hread
    · next hlive =>
      obtain ⟨count, hcount⟩ := hread
      rw [if_pos hlive, Dialogue.ask_bind, Dialogue.hold_ask, Memory.answer, hcount]
      exact ⟨rfl, hidle _⟩
    · next hdead =>
      rw [if_neg hdead, Dialogue.ask_bind, Dialogue.hold_ask, Memory.answer, hread]
      have hnext := Counter.next_of_dead hdead (.ofSecs secs.toUInt64)
      have hmarked : marked secs (.ok (1 : Int64)) = .ok () := rfl
      refine ⟨?_, fun s' => ?_⟩
      · show Answer.verdict (marked secs (.ok (Counter.next _ _ _).count)) = _
        rw [hnext, hmarked]
      · show (m.increment t _ _).2.find? (l.key s'.name) = _
        rw [l.find?_increment_scope t m, hnext]

end Limiter

/-! ## Counts -/

theorem toInt_add_one {i : Int64} (h : i.toInt + 1 ≤ Int64.maxValue.toInt) :
    (i + 1).toInt = i.toInt + 1 := by
  have hle := Int64.le_toInt i
  rw [Int64.toInt_maxValue] at h
  rw [Int64.toInt_add, show (1 : Int64).toInt = 1 from rfl]
  exact Int.bmod_eq_of_le (by omega) (by omega)

theorem Counter.raised_some (c : Counter) : raised (some c) = c.count.toInt.toNat := rfl

/-- One more is counted, or the count starts at one. -/
theorem Counter.raised_next_le {o : Option Counter} (t : Instant) (ttl : Duration)
    (h : raised o + 1 ≤ Int64.maxValue.toInt) : raised (some (next o t ttl)) ≤ raised o + 1 := by
  by_cases hlive : (o.filter (·.isLive t)).isSome = true
  · obtain ⟨c, hc⟩ := Option.isSome_iff_exists.1 hlive
    obtain ⟨rfl, hbefore⟩ := Option.filter_eq_some_iff.1 hc
    rw [raised_some] at h ⊢
    rw [next_of_live hbefore, raised_some]
    have hcount := toInt_add_one (i := c.count) (by omega)
    show (c.count + 1).toInt.toNat ≤ _
    omega
  · rw [next_of_dead hlive, raised_some]
    show (1 : Int64).toInt.toNat ≤ _
    have hone : (1 : Int64).toInt.toNat = 1 := rfl
    omega

/-- Beyond the limit all counts are told the same. -/
theorem Request.told_of_lt {limit : Limit} {i j : Int64} (hi : limit.requests.toNat < i.toInt)
    (hj : limit.requests.toNat < j.toInt) (r : Request) :
    r.told limit (.ok i) = r.told limit (.ok j) := by
  have hverdict : Limiter.verdict limit (.ok i) = Limiter.verdict limit (.ok j) := by
    rw [Limiter.verdict_of_lt hi, Limiter.verdict_of_lt hj]
  have hleft : Limiter.leftOver limit (.ok i) = Limiter.leftOver limit (.ok j) := by
    rw [Limiter.leftOver, Limiter.leftOver, Limiter.left_of_lt hi, Limiter.left_of_lt hj]
  cases r with
  | check => rw [told, told, hverdict]
  | remaining => rw [told, told, hleft]
  | budget clock => rw [told, told, hleft]

/-- Only a check can be denied, and only beyond the limit. -/
theorem Request.lt_of_told {limit : Limit} {r : Request} {i : Int64}
    (h : (r.told limit (.ok i)).isDenied = true) : limit.requests.toNat < i.toInt := by
  cases r with
  | check =>
    refine Int.not_le.1 fun hle => ?_
    rw [told, Limiter.verdict_of_le hle] at h
    cases h
  | remaining => cases h
  | budget clock => cases h

theorem Request.told_error_isDenied (limit : Limit) (fault : StoreFault) (r : Request) :
    (r.told limit (.error fault)).isDenied = false := by
  cases r <;> rfl

/-! ## Counters of two runs -/

namespace Alike

variable {most : UInt32} {rest : Nat} {o o' : Option Counter}

theorem rest_le (h : Alike most rest o o') : (rest : Int) ≤ Int64.maxValue.toInt := by
  cases h with
  | same hroom => omega
  | full hj hi hroom => omega

/-- A call that leaves both as they are. -/
theorem of_succ (h : Alike most (rest + 1) o o') : Alike most rest o o' := by
  cases h with
  | same hroom => exact .same (by omega)
  | full hj hi hroom => exact .full hj hi (by omega)

theorem isSome_filter (h : Alike most rest o o') (t : Instant) :
    (o.filter (·.isLive t)).isSome = (o'.filter (·.isLive t)).isSome := by
  cases h with
  | same hroom => rfl
  | full hj hi hroom =>
    rw [Option.filter_some, Option.filter_some, Counter.isLive, Counter.isLive]
    split <;> rfl

theorem fresh (h : Alike most (rest + 1) o o') (stop : Instant) :
    Alike most rest (some ⟨1, stop⟩) (some ⟨1, stop⟩) := by
  have hrest := h.rest_le
  refine .same ?_
  have hone : Counter.raised (some ⟨1, stop⟩) = 1 := rfl
  omega

/-- A request counts in both. -/
theorem next (h : Alike most (rest + 1) o o') (t : Instant) {limit : Limit}
    (hlimit : limit.requests = most) (r : Request) :
    r.told limit (.ok (Counter.next o t limit.window).count) =
      r.told limit (.ok (Counter.next o' t limit.window).count) ∧
    Alike most rest (some (Counter.next o t limit.window))
      (some (Counter.next o' t limit.window)) := by
  have hfresh := h.fresh (Instant.deadline t limit.window)
  cases h with
  | same hroom =>
    have hraised := Counter.raised_next_le t limit.window (o := o) (by omega)
    exact ⟨rfl, .same (by omega)⟩
  | @full i j stop hj hi hroom =>
    by_cases hlive : t < stop
    · have hnext : ∀ k : Int64, Counter.next (some ⟨k, stop⟩) t limit.window = ⟨k + 1, stop⟩ :=
        fun k => Counter.next_of_live (decide_eq_true hlive) _
      have hi' : (i + 1).toInt = i.toInt + 1 := toInt_add_one (by omega)
      have hj' : (j + 1).toInt = j.toInt + 1 := toInt_add_one (by omega)
      rw [hnext, hnext]
      refine ⟨Request.told_of_lt ?_ ?_ r, .full ?_ ?_ ?_⟩
      all_goals simp only [hlimit, hi', hj']
      all_goals omega
    · have hnext : ∀ k : Int64, Counter.next (some ⟨k, stop⟩) t limit.window =
          ⟨1, Instant.deadline t limit.window⟩ := by
        intro k
        refine Counter.next_of_dead ?_ _
        rw [Option.filter_some, Counter.isLive, if_neg (by simpa using hlive)]
        exact Bool.false_ne_true
      rw [hnext, hnext]
      exact ⟨rfl, hfresh⟩

/-- A denied check counts in the first alone. It came to a counter that was at the limit, since
a new one is within it. -/
theorem next_denied (h : Alike most (rest + 1) o o') (t : Instant) {limit : Limit}
    (hlimit : limit.requests = most ∧ 0 < limit.requests)
    (hdenied : limit.requests.toNat < (Counter.next o t limit.window).count.toInt) :
    Alike most rest (some (Counter.next o t limit.window)) o' := by
  obtain ⟨rfl, hpos⟩ := hlimit
  have hpos : 0 < limit.requests.toNat := UInt32.lt_iff_toNat_lt.1 hpos
  by_cases hlive : (o.filter (·.isLive t)).isSome = true
  · obtain ⟨c, hc⟩ := Option.isSome_iff_exists.1 hlive
    obtain ⟨rfl, hbefore⟩ := Option.filter_eq_some_iff.1 hc
    rw [Counter.next_of_live hbefore] at hdenied ⊢
    cases h with
    | same hroom =>
      rw [Counter.raised_some] at hroom
      have hcount := toInt_add_one (i := c.count) (by omega)
      exact .full (by simp only at hdenied; omega) (by omega) (by omega)
    | @full i j stop hj hi hroom =>
      have hcount := toInt_add_one (i := i) (by omega)
      exact .full hj (by simp only at *; omega) (by simp only at *; omega)
  · rw [Counter.next_of_dead hlive] at hdenied
    have hone : (1 : Int64).toInt = 1 := rfl
    simp only [hone] at hdenied
    omega

variable {c : ScopedCall} {most : Scope → UInt32} (l : Limiter) (t : Instant)

/-- Both runs make the call. -/
theorem meet (h : Alike (most c.scope) (rest + 1) o o') (hc : c.HeldTo most) :
    (c.meet l t o).1 = (c.meet l t o').1 ∧
      Alike (most c.scope) rest (c.meet l t o).2 (c.meet l t o').2 := by
  cases c with
  | request s limit r =>
    rw [ScopedCall.meet, ScopedCall.meet]
    by_cases henabled : l.settings.enabled = true
    · rw [if_pos henabled, if_pos henabled]
      exact h.next t hc.1 r
    · rw [if_neg henabled, if_neg henabled]
      exact ⟨rfl, h.of_succ⟩
  | slowmode userId channelId secs =>
    rw [ScopedCall.meet, ScopedCall.meet, ← h.isSome_filter t]
    split
    · exact ⟨rfl, h.of_succ⟩
    split
    · exact ⟨rfl, h.of_succ⟩
    · exact ⟨rfl, h.fresh _⟩

/-- The call is denied in the first run, and the second is without it. -/
theorem meet_denied (h : Alike (most c.scope) (rest + 1) o o') (hc : c.HeldTo most)
    (hdenied : (c.meet l t o).1.isDenied = true) :
    Alike (most c.scope) rest (c.meet l t o).2 o' := by
  cases c with
  | request s limit r =>
    rw [ScopedCall.meet] at hdenied ⊢
    by_cases henabled : l.settings.enabled = true
    · rw [if_pos henabled] at hdenied ⊢
      exact h.next_denied t hc (Request.lt_of_told hdenied)
    · rw [if_neg henabled, Request.told_error_isDenied] at hdenied
      cases hdenied
  | slowmode userId channelId secs =>
    rw [ScopedCall.meet] at hdenied ⊢
    by_cases hsecs : secs ≤ 0
    · rw [if_pos hsecs] at hdenied
      cases hdenied
    rw [if_neg hsecs] at hdenied ⊢
    by_cases hlive : (o.filter (·.isLive t)).isSome = true
    · rw [if_pos hlive]
      exact h.of_succ
    · rw [if_neg hlive] at hdenied
      cases hdenied

end Alike

/-! ## Stores of two runs -/

theorem callsIn_cons (s : Scope) (t : Instant) (c : ScopedCall)
    (timed : List (Instant × ScopedCall)) :
    callsIn s ((t, c) :: timed) = callsIn s timed + if s = c.scope then 1 else 0 := by
  rw [callsIn, List.countP_cons, callsIn]
  simp only [decide_eq_true_eq]

namespace Shadows

variable {l : Limiter} {most : Scope → UInt32} {t : Instant} {c : ScopedCall}
  {timed : List (Instant × ScopedCall)} {m m' : Memory}

/-- What is before the call, in its own scope and in the others. -/
theorem at_scope (h : Shadows l most ((t, c) :: timed) m m') :
    Alike (most c.scope) (callsIn c.scope timed + 1) (m.find? (l.key c.scope.name))
      (m'.find? (l.key c.scope.name)) := by
  have hscope := h c.scope
  rw [callsIn_cons, if_pos rfl] at hscope
  exact hscope

theorem at_others (h : Shadows l most ((t, c) :: timed) m m') {s : Scope} (hs : s ≠ c.scope) :
    Alike (most s) (callsIn s timed) (m.find? (l.key s.name)) (m'.find? (l.key s.name)) := by
  have hscope := h s
  rw [callsIn_cons, if_neg hs] at hscope
  exact hscope

/-- The step, if both runs have the call. -/
theorem kept (h : Shadows l most ((t, c) :: timed) m m') (hc : c.HeldTo most) :
    (Dialogue.hold (Memory.answer t) m (c.put l)).result =
      (Dialogue.hold (Memory.answer t) m' (c.put l)).result ∧
    Shadows l most timed (Dialogue.hold (Memory.answer t) m (c.put l)).state
      (Dialogue.hold (Memory.answer t) m' (c.put l)).state := by
  obtain ⟨hresult, hstate⟩ := l.hold_put t m c
  obtain ⟨hresult', hstate'⟩ := l.hold_put t m' c
  obtain ⟨hsame, halike⟩ := h.at_scope.meet l t hc
  refine ⟨?_, fun s => ?_⟩
  · rw [hresult, hresult', hsame]
  · rw [hstate, hstate']
    by_cases hs : s = c.scope
    · subst hs
      rw [if_pos rfl, if_pos rfl]
      exact halike
    · rw [if_neg hs, if_neg hs]
      exact h.at_others hs

/-- The step, if the call is denied and the second run is without it. -/
theorem leftOut (h : Shadows l most ((t, c) :: timed) m m') (hc : c.HeldTo most)
    (hdenied : (Dialogue.hold (Memory.answer t) m (c.put l)).result.isDenied = true) :
    Shadows l most timed (Dialogue.hold (Memory.answer t) m (c.put l)).state m' := by
  obtain ⟨hresult, hstate⟩ := l.hold_put t m c
  rw [hresult] at hdenied
  intro s
  rw [hstate]
  by_cases hs : s = c.scope
  · subst hs
    rw [if_pos rfl]
    exact h.at_scope.meet_denied l t hc hdenied
  · rw [if_neg hs]
    exact h.at_others hs

/-- The run. -/
theorem run {deleted : Nat → Bool} (h : Shadows l most timed m m')
    (hheld : ∀ e ∈ timed, e.2.HeldTo most)
    (hdenied : ∀ i e, deleted i = true → (l.serve m timed)[i]? = some e → e.2.isDenied = true) :
    l.serve m' (without deleted timed) = without deleted (l.serve m timed) := by
  induction timed generalizing m m' deleted with
  | nil => rfl
  | cons e rest ih =>
    obtain ⟨t, c⟩ := e
    have hc := hheld _ List.mem_cons_self
    have hheld := fun e he => hheld e (List.mem_cons_of_mem _ he)
    have hlater := fun i e (hi : deleted (i + 1) = true) => hdenied (i + 1) e hi
    rw [without, Limiter.serve, without]
    by_cases hfirst : deleted 0 = true
    · rw [if_pos hfirst, if_pos hfirst]
      exact ih (h.leftOut hc (hdenied 0 _ hfirst rfl)) hheld hlater
    · obtain ⟨hresult, hnext⟩ := h.kept hc
      rw [if_neg hfirst, if_neg hfirst, Limiter.serve, ← hresult]
      exact congrArg ((c, _) :: ·) (ih hnext hheld hlater)

end Shadows

/-- **Denied requests leave no trace.** Take any run of a limiter, in which the requests of
each scope are held to one number that is not zero, and leave out any of the calls that were
denied: every other call is told what it was told with them. The run may start from any store
that has room for the calls, a counter having 64 bits; the windows may be of any length, and
slowmode is left out and kept in the same way. -/
theorem serve_without_denied (l : Limiter) (m : Memory) (timed : List (Instant × ScopedCall))
    (most : Scope → UInt32) (deleted : Nat → Bool)
    (hheld : ∀ e ∈ timed, e.2.HeldTo most)
    (hroom : ∀ s : Scope, Counter.raised (m.find? (l.key s.name)) + callsIn s timed ≤
      Int64.maxValue.toInt)
    (hdenied : ∀ i e, deleted i = true → (l.serve m timed)[i]? = some e → e.2.isDenied = true) :
    l.serve m (without deleted timed) = without deleted (l.serve m timed) := by
  have hstart : Shadows l most timed m m := fun s => .same (hroom s)
  exact hstart.run hheld hdenied

/-! ## An impatient user -/

/-- Two logins and two messages of a user, each of them with a retry that comes too early. -/
def sampleRetries : List (Instant × ScopedCall) :=
  [(0, .request (.user ⟨1⟩ .auth) (.perMinute 1) .check),
   (1000000000, .request (.user ⟨1⟩ .auth) (.perMinute 1) .check),
   (2000000000, .slowmode ⟨1⟩ ⟨2⟩ 5),
   (3000000000, .slowmode ⟨1⟩ ⟨2⟩ 5),
   (4000000000, .request (.user ⟨1⟩ .auth) (.perMinute 1) .remaining),
   (7000000000, .slowmode ⟨1⟩ ⟨2⟩ 5),
   (60000000000, .request (.user ⟨1⟩ .auth) (.perMinute 1) .check)]

def tooEarly (i : Nat) : Bool := i == 1 || i == 3

theorem serve_sampleRetries :
    (Limiter.serve ⟨{}⟩ .empty sampleRetries).map Prod.snd =
      [.verdict (.ok ()), .verdict (.error (.tooMany 1 60 60)), .verdict (.ok ()),
       .verdict (.error (.slowmode 5 5)), .remaining 0, .verdict (.ok ()), .verdict (.ok ())] ∧
    (Limiter.serve ⟨{}⟩ .empty (without tooEarly sampleRetries)).map Prod.snd =
      [.verdict (.ok ()), .verdict (.ok ()), .remaining 0, .verdict (.ok ()),
       .verdict (.ok ())] := by
  have hall : (Limiter.serve ⟨{}⟩ .empty sampleRetries).map Prod.snd =
      [.verdict (.ok ()), .verdict (.error (.tooMany 1 60 60)), .verdict (.ok ()),
       .verdict (.error (.slowmode 5 5)), .remaining 0, .verdict (.ok ()), .verdict (.ok ())] := rfl
  refine ⟨hall, ?_⟩
  rw [serve_without_denied ⟨{}⟩ .empty sampleRetries (fun _ => 1) tooEarly]
  · rfl
  · intro e he
    simp only [sampleRetries, List.mem_cons, List.not_mem_nil, or_false] at he
    rcases he with rfl | rfl | rfl | rfl | rfl | rfl | rfl
    all_goals simp [ScopedCall.HeldTo, Limit.perMinute, Limit.perSeconds]
  · intro s
    have hcalls : callsIn s sampleRetries ≤ sampleRetries.length := List.countP_le_length
    have hlength : sampleRetries.length = 7 := rfl
    have hnone : Counter.raised (Memory.empty.find? (Limiter.key ⟨{}⟩ s.name)) = 0 := rfl
    rw [Int64.toInt_maxValue]
    omega
  · intro i e hi he
    have hplace : i = 1 ∨ i = 3 := by simpa [tooEarly] using hi
    rcases hplace with rfl | rfl
    all_goals
      cases he
      rfl

end Turnstile

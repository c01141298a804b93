import Turnstile.Proofs.Rate.Request
import Turnstile.Store.Rehearsed

/-!
# Budgets at any count

A store that others share may answer any number of 64 bits, also one that no counting comes
to. What a limit leaves at such a count is told here in numbers without bounds, and so is
where the 64-bit arithmetic overflows: near the least number, at counts below zero. A check
only compares and overflows nowhere, so near that number the two disagree.

    either step overflows ↔ the limit less the count is 2^63 - 1 or more   (overflows_iff)
    without an overflow, what is left is exact                          (toNat_left_of_lt)
      and something is left just if a check passes                       (one_le_left_iff)
    with one, nothing is left                                          (left_of_overflows)
    the same for whoever asks a store that answers the count         (budget_at_any_count)
-/

namespace Turnstile

open Dialogue

namespace Limiter

/-- One of the two steps, to take the count from the limit and to add one, overflows. -/
def Overflows (limit : UInt32) (count : Int64) : Prop :=
  limit.toUInt64.toInt64.toBitVec.ssubOverflow count.toBitVec = true ∨
    (limit.toUInt64.toInt64 - count).toBitVec.saddOverflow (1 : Int64).toBitVec = true

instance (limit : UInt32) (count : Int64) : Decidable (Overflows limit count) :=
  inferInstanceAs (Decidable (_ ∨ _))

theorem overflows_iff (limit : UInt32) (count : Int64) :
    Overflows limit count ↔ Int64.maxValue.toInt ≤ limit.toNat - count.toInt := by
  have hlimit := limit.toNat_lt
  have hle := count.toInt_le
  have hge := count.le_toInt
  have hone : (1 : Int64).toInt = 1 := rfl
  rw [Int64.toInt_maxValue] at hle ⊢
  simp only [Overflows, BitVec.ssubOverflow, BitVec.saddOverflow, Int64.toInt_toBitVec,
    Int64.toInt_sub, toInt_widened, hone, Bool.or_eq_true, decide_eq_true_eq]
  -- the second step starts from the exact difference only if the first one did not overflow
  by_cases hfirst : (limit.toNat : Int) - count.toInt < 2 ^ 63
  · rw [Int.bmod_eq_of_le (by omega) (by omega)]
    omega
  · omega

theorem count_neg_of_overflows {limit : UInt32} {count : Int64} (h : Overflows limit count) :
    count.toInt < 0 := by
  have hlimit := limit.toNat_lt
  rw [overflows_iff, Int64.toInt_maxValue] at h
  omega

/-- What wraps comes out below zero, and is cut to it. -/
theorem left_of_overflows {limit : UInt32} {count : Int64} (h : Overflows limit count) :
    left limit count = 0 := by
  have hlimit := limit.toNat_lt
  have hge := count.le_toInt
  rw [overflows_iff, Int64.toInt_maxValue] at h
  have hneg : (limit.toNat - count.toInt + 1 : Int).bmod UInt64.size < 0 := by
    rw [Int.bmod_def, UInt64.size]
    split <;> omega
  have hleft := toNat_left limit count
  apply UInt32.toNat_inj.1
  rw [UInt32.toNat_zero]
  omega

section
variable {l : Limiter} {scopeName : String} {limit : Limit} {count : Int64} {σ : Type}
  {answer : σ → StoreCall → StoreAnswer × σ} {s : σ}

theorem hold_remaining (henabled : l.settings.enabled = true)
    (hcount : (answer s (.increment (l.key scopeName) limit.window)).1 = .ok count) :
    (hold answer s (l.remaining scopeName limit)).result = left limit.requests count := by
  rw [l.remaining_eq, if_pos henabled, hold_ask, hcount]
  rfl

theorem hold_budget (henabled : l.settings.enabled = true) (now : Timestamp)
    (hcount : (answer s (.increment (l.key scopeName) limit.window)).1 = .ok count) :
    (hold answer s (l.budget now scopeName limit)).result =
      ⟨limit.requests, left limit.requests count, Budget.windowEnd now limit.window⟩ := by
  rw [budget, hold_bind, hold_remaining henabled hcount]
  rfl

theorem hold_check (henabled : l.settings.enabled = true)
    (hcount : (answer s (.increment (l.key scopeName) limit.window)).1 = .ok count) :
    (hold answer s (l.check scopeName limit)).result = verdict limit (.ok count) := by
  rw [l.check_eq, if_pos henabled, hold_ask, hcount]
  rfl

end

theorem verdict_eq_ok_iff (limit : Limit) (count : Int64) :
    verdict limit (.ok count) = .ok () ↔ count.toInt ≤ limit.requests.toNat := by
  refine ⟨fun h => Int.not_lt.1 fun hlt => ?_, verdict_of_le⟩
  rw [verdict_of_lt hlt] at h
  cases h

/-- Without an overflow there is something left just if a check passes. -/
theorem one_le_left_iff {limit : Limit} {count : Int64} (hpos : 0 < limit.requests)
    (h : ¬ Overflows limit.requests count) :
    1 ≤ (left limit.requests count).toNat ↔ verdict limit (.ok count) = .ok () := by
  have hlimit : 0 < limit.requests.toNat := UInt32.lt_iff_toNat_lt.1 hpos
  have hleft := toNat_left_of_lt (Int.not_le.1 (mt (overflows_iff _ _).2 h))
  rw [verdict_eq_ok_iff]
  omega

/-- **What is left at any count.** Whatever store answers a count of 64 bits, those who ask what
is left get one number, and a check comes to one verdict. If neither step of the arithmetic
overflows, the number is the limit less the count and one more, from zero to the limit, and
something is left just if the check passes. If one does, nothing is said to be left, and the
check passes. -/
theorem budget_at_any_count (l : Limiter) (henabled : l.settings.enabled = true)
    (scopeName : String) (limit : Limit) (now : Timestamp) (count : Int64) :
    ∃ (n : UInt32) (v : Except QuotaDenial Unit),
      (∀ (σ : Type) (answer : σ → StoreCall → StoreAnswer × σ) (s : σ),
        (answer s (.increment (l.key scopeName) limit.window)).1 = .ok count →
        (hold answer s (l.remaining scopeName limit)).result = n ∧
        (hold answer s (l.budget now scopeName limit)).result =
          ⟨limit.requests, n, Budget.windowEnd now limit.window⟩ ∧
        (hold answer s (l.check scopeName limit)).result = v) ∧
      (Overflows limit.requests count ↔
        Int64.maxValue.toInt ≤ limit.requests.toNat - count.toInt) ∧
      (¬ Overflows limit.requests count →
        (n.toNat : Int) =
          min (max (limit.requests.toNat - count.toInt + 1) 0) limit.requests.toNat ∧
        (0 < limit.requests → (1 ≤ n.toNat ↔ v = .ok ()))) ∧
      (Overflows limit.requests count → n = 0 ∧ v = .ok ()) := by
  refine ⟨left limit.requests count, verdict limit (.ok count), fun σ answer s hcount => ?_,
    overflows_iff _ _, fun hfits => ?_, fun hover => ?_⟩
  · exact ⟨hold_remaining henabled hcount, hold_budget henabled now hcount,
      hold_check henabled hcount⟩
  · exact ⟨toNat_left_of_lt (Int.not_le.1 (mt (overflows_iff _ _).2 hfits)),
      fun hpos => one_le_left_iff hpos hfits⟩
  · have hneg := count_neg_of_overflows hover
    exact ⟨left_of_overflows hover, verdict_of_le (by omega)⟩

/-- Five a minute are left at the least count that does not overflow, none at the next below,
and a check passes at both. -/
theorem budget_at_least_counts :
    ¬ Overflows 5 (-9223372036854775801) ∧
    (hold Rehearsal.answer ⟨[.ok (-9223372036854775801)], []⟩
        (remaining ⟨{}⟩ "login" (.perMinute 5))).result.toNat = 5 ∧
    (hold Rehearsal.answer ⟨[.ok (-9223372036854775801)], []⟩
        (check ⟨{}⟩ "login" (.perMinute 5))).result = .ok () ∧
    Overflows 5 (-9223372036854775802) ∧
    (hold Rehearsal.answer ⟨[.ok (-9223372036854775802)], []⟩
        (remaining ⟨{}⟩ "login" (.perMinute 5))).result = 0 ∧
    (hold Rehearsal.answer ⟨[.ok (-9223372036854775802)], []⟩
        (check ⟨{}⟩ "login" (.perMinute 5))).result = .ok () := by
  have hfits : ¬ Overflows 5 (-9223372036854775801) := by decide
  have hover : Overflows 5 (-9223372036854775802) := by decide
  obtain ⟨n, v, hstores, -, hn, -⟩ :=
    budget_at_any_count ⟨{}⟩ rfl "login" (.perMinute 5) ⟨0, 0, by decide⟩ (-9223372036854775801)
  obtain ⟨n', v', hstores', -, -, hn'⟩ :=
    budget_at_any_count ⟨{}⟩ rfl "login" (.perMinute 5) ⟨0, 0, by decide⟩ (-9223372036854775802)
  obtain ⟨hleft, -, hcheck⟩ := hstores _ Rehearsal.answer ⟨[.ok (-9223372036854775801)], []⟩ rfl
  obtain ⟨hleft', -, hcheck'⟩ :=
    hstores' _ Rehearsal.answer ⟨[.ok (-9223372036854775802)], []⟩ rfl
  obtain ⟨hexact, hagree⟩ := hn hfits
  obtain ⟨hnone, hpassed⟩ := hn' hover
  have hfive : n.toNat = 5 := Int.ofNat.inj hexact
  rw [hleft, hcheck, hleft', hcheck']
  exact ⟨hfits, hfive, (hagree (by decide)).1 (by omega), hover, hnone, hpassed⟩

/-- So the number is not exact at every count that a store may answer. -/
theorem overflow_leaves_nothing :
    ¬ ∀ (l : Limiter) (scopeName : String) (limit : Limit) (count : Int64),
      l.settings.enabled = true →
      ∀ (σ : Type) (answer : σ → StoreCall → StoreAnswer × σ) (s : σ),
        (answer s (.increment (l.key scopeName) limit.window)).1 = .ok count →
        ((hold answer s (l.remaining scopeName limit)).result.toNat : Int) =
          min (max (limit.requests.toNat - count.toInt + 1) 0) limit.requests.toNat ∧
        (0 < limit.requests →
          (1 ≤ (hold answer s (l.remaining scopeName limit)).result.toNat ↔
            (hold answer s (l.check scopeName limit)).result = .ok ())) := by
  intro h
  obtain ⟨hexact, -⟩ := h ⟨{}⟩ "login" (.perMinute 5) Int64.minValue rfl _ Rehearsal.answer
    ⟨[.ok Int64.minValue], []⟩ rfl
  exact absurd hexact (by decide)

end Limiter

end Turnstile

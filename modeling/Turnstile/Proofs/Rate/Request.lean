import Turnstile.Rate.Limiter

/-!
# Requests on a scope

A request on a scope either wants to pass or asks for the budget, and either way it counts.
It puts a single question to the store, so requests of several clients are one after the
other whatever their timing, and what it is told depends on the count alone.

    r.put l scopeName limit = .ask (one increment) fun a => .done (r.told limit a)   (put_eq)
    r.told limit (.ok (.ofNat i)) = r.due limit i                                     (told_ofNat)
-/

namespace Turnstile

inductive Request where
  | check
  | remaining
  /-- The budget, asked for at this time of the calendar. -/
  | budget (clock : Timestamp)
  deriving DecidableEq

/-- What the client gets. -/
inductive Answer where
  | verdict (v : Except QuotaDenial Unit)
  | remaining (n : UInt32)
  | budget (b : Budget)

namespace Answer

def isAdmitted : Answer → Bool
  | .verdict (.ok ()) => true
  | _ => false

/-- The requests left, if that was asked. -/
def left? : Answer → Option UInt32
  | .verdict _ => none
  | .remaining n => some n
  | .budget b => some b.remaining

/-- The seconds to wait, if the client was told to. -/
def retryAfter? : Answer → Option UInt64
  | .verdict (.error d) => d.retryAfter?
  | _ => none

end Answer

namespace Request

/-- The request as the limiter serves it. -/
def put (l : Limiter) (scopeName : String) (limit : Limit) : Request → Counting Answer
  | .check => do return .verdict (← l.check scopeName limit)
  | .remaining => do return .remaining (← l.remaining scopeName limit)
  | .budget clock => do return .budget (← l.budget clock scopeName limit)

/-- What the client is told when the store has answered. -/
def told (limit : Limit) (a : StoreAnswer) : Request → Answer
  | .check => .verdict (Limiter.verdict limit a)
  | .remaining => .remaining (Limiter.leftOver limit a)
  | .budget clock => .budget
      ⟨limit.requests, Limiter.leftOver limit a, Budget.windowEnd clock limit.window⟩

/-- What the `i`-th request in a window is to be told, the first one being number one. -/
def due (limit : Limit) (i : Nat) : Request → Answer
  | .check => .verdict <|
      if i ≤ limit.requests.toNat then .ok ()
      else .error (.tooMany limit.requests limit.windowSecs limit.windowSecs)
  | .remaining => .remaining (.ofNat (limit.requests.toNat + 1 - i))
  | .budget clock => .budget
      ⟨limit.requests, .ofNat (limit.requests.toNat + 1 - i), Budget.windowEnd clock limit.window⟩

end Request

/-! ## What is left, in 64 bits -/

namespace Limiter

theorem within_ofNat (limit : UInt32) {i : Nat} (hi : i ≤ Int64.maxValue.toInt) :
    within limit (.ofNat i) = true ↔ i ≤ limit.toNat := by
  rw [Int64.toInt_maxValue] at hi
  rw [within_iff, Int64.toInt_ofNat_of_lt (by omega)]
  omega

theorem toInt_max (a b : Int64) : (max a b).toInt = max a.toInt b.toInt := by
  by_cases h : a ≤ b
  · rw [show max a b = b from if_pos h, Int.max_eq_right (Int64.le_iff_toInt_le.1 h)]
  · rw [show max a b = a from if_neg h,
      Int.max_eq_left (Int.le_of_not_le (mt Int64.le_iff_toInt_le.2 h))]

theorem toInt_min (a b : Int64) : (min a b).toInt = min a.toInt b.toInt := by
  by_cases h : a ≤ b
  · rw [show min a b = a from if_pos h, Int.min_eq_left (Int64.le_iff_toInt_le.1 h)]
  · rw [show min a b = b from if_neg h,
      Int.min_eq_right (Int.le_of_not_le (mt Int64.le_iff_toInt_le.2 h))]

/-- A limit is the same number in 64 bits. -/
theorem toInt_widened (limit : UInt32) : limit.toUInt64.toInt64.toInt = limit.toNat := by
  have hlimit := limit.toNat_lt
  have hnat : limit.toUInt64.toBitVec.toNat = limit.toNat := limit.toNat_toUInt64
  show limit.toUInt64.toBitVec.toInt = limit.toNat
  rw [BitVec.toInt_eq_toNat_of_lt (by omega), hnat]

/-- A number from zero to a limit is the same number in 32 bits. -/
theorem toNat_narrowed {x : Int64} (limit : UInt32) (hnonneg : 0 ≤ x.toInt)
    (hle : x.toInt ≤ limit.toNat) : (x.toUInt64.toUInt32.toNat : Int) = x.toInt := by
  have hlimit := limit.toNat_lt
  have hx : x.toUInt64.toNat = x.toInt.toNat :=
    Int64.toNat_toUInt64_of_le (Int64.le_iff_toInt_le.2 hnonneg)
  rw [UInt64.toNat_toUInt32, hx]
  omega

/-- The limit less the count and one more wraps at 64 bits, and then it is cut to the limit. -/
theorem toNat_left (limit : UInt32) (count : Int64) :
    ((left limit count).toNat : Int) =
      max 0 (min ((limit.toNat - count.toInt + 1 : Int).bmod UInt64.size) limit.toNat) := by
  have hrest : (limit.toUInt64.toInt64 - count + 1).toInt =
      (limit.toNat - count.toInt + 1 : Int).bmod UInt64.size := by
    rw [Int64.toInt_add, Int64.toInt_sub, Int.bmod_add_bmod, toInt_widened]
    rfl
  have hcut : (max 0 (min (limit.toUInt64.toInt64 - count + 1) limit.toUInt64.toInt64)).toInt =
      max 0 (min ((limit.toNat - count.toInt + 1 : Int).bmod UInt64.size) limit.toNat) := by
    rw [toInt_max, toInt_min, hrest, toInt_widened]
    rfl
  rw [left, toNat_narrowed limit (by omega) (by omega), hcut]

/-- Nothing wraps if 64 bits hold one more than the limit less the count. -/
theorem toNat_left_of_lt {limit : UInt32} {count : Int64}
    (h : limit.toNat - count.toInt < Int64.maxValue.toInt) :
    ((left limit count).toNat : Int) = min (max (limit.toNat - count.toInt + 1) 0) limit.toNat := by
  have hcount := count.toInt_le
  rw [Int64.toInt_maxValue] at h hcount
  rw [toNat_left, UInt64.size, Int.bmod_eq_of_le (by omega) (by omega)]
  omega

/-- Nothing is left beyond the limit. -/
theorem left_of_lt {limit : UInt32} {count : Int64} (h : limit.toNat < count.toInt) :
    left limit count = 0 := by
  have hleft := @toNat_left_of_lt limit count (by rw [Int64.toInt_maxValue]; omega)
  apply UInt32.toNat_inj.1
  rw [UInt32.toNat_zero]
  omega

/-- A window counts from one, so what is left is never cut to the limit. -/
theorem left_ofNat (limit : UInt32) {i : Nat} (hpos : 0 < i) (hi : i ≤ Int64.maxValue.toInt) :
    left limit (.ofNat i) = .ofNat (limit.toNat + 1 - i) := by
  have hlimit := limit.toNat_lt
  rw [Int64.toInt_maxValue] at hi
  have hcount : (Int64.ofNat i).toInt = i := Int64.toInt_ofNat_of_lt (by omega)
  have hleft := @toNat_left_of_lt limit (.ofNat i) (by rw [hcount, Int64.toInt_maxValue]; omega)
  rw [hcount] at hleft
  apply UInt32.toNat_inj.1
  rw [UInt32.toNat_ofNat', Nat.mod_eq_of_lt (by omega)]
  omega

end Limiter

/-! ## Requests and the store -/

namespace Request

theorem put_eq {l : Limiter} (henabled : l.settings.enabled = true) (scopeName : String)
    (limit : Limit) (r : Request) :
    r.put l scopeName limit =
      .ask (.increment (l.key scopeName) limit.window) fun a => .done (r.told limit a) := by
  cases r with
  | check =>
    rw [put, l.check_eq, if_pos henabled]
    rfl
  | remaining =>
    rw [put, l.remaining_eq, if_pos henabled]
    rfl
  | budget clock =>
    rw [put, Limiter.budget, l.remaining_eq, if_pos henabled]
    rfl

theorem put_eq_of_disabled {l : Limiter} (h : ¬ l.settings.enabled = true)
    (scopeName : String) (limit : Limit) (r : Request) :
    r.put l scopeName limit = .done (r.told limit (.error .notFound)) := by
  cases r with
  | check =>
    rw [put, l.check_eq, if_neg h]
    rfl
  | remaining =>
    rw [put, l.remaining_eq, if_neg h]
    rfl
  | budget clock =>
    rw [put, Limiter.budget, l.remaining_eq, if_neg h]
    rfl

theorem isAdmitted_due_check (limit : Limit) (i : Nat) :
    (check.due limit i).isAdmitted = true ↔ i ≤ limit.requests.toNat := by
  rw [due]
  split
  · next h => exact ⟨fun _ => h, fun _ => rfl⟩
  · next h => exact ⟨fun h' => Bool.noConfusion h', fun h' => absurd h' h⟩

/-- Both ways to ask give the same number. -/
theorem toNat_left?_due {limit : Limit} {i : Nat} (hpos : 0 < i) {r : Request} {n : UInt32}
    (h : (r.due limit i).left? = some n) : n.toNat = limit.requests.toNat + 1 - i := by
  have hlimit := limit.requests.toNat_lt
  have hn : n = .ofNat (limit.requests.toNat + 1 - i) := by
    cases r with
    | check => cases h
    | remaining => exact (Option.some.inj h).symm
    | budget clock => exact (Option.some.inj h).symm
  rw [hn, UInt32.toNat_ofNat', Nat.mod_eq_of_lt (by omega)]

/-- As long as 64 bits hold the count, each request in a window is told what is due. -/
theorem told_ofNat (limit : Limit) {i : Nat} (hpos : 0 < i) (hi : i ≤ Int64.maxValue.toInt)
    (r : Request) : r.told limit (.ok (.ofNat i)) = r.due limit i := by
  have hleft : Limiter.leftOver limit (.ok (.ofNat i)) = .ofNat (limit.requests.toNat + 1 - i) :=
    Limiter.left_ofNat limit.requests hpos hi
  cases r with
  | check =>
    rw [told, due, Limiter.verdict]
    simp only [Limiter.within_ofNat limit.requests hi]
  | remaining => rw [told, due, hleft]
  | budget clock => rw [told, due, hleft]

end Request

end Turnstile

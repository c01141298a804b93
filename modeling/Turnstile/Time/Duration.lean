import Turnstile.Text.Decimal

/-!
# Durations

A span of time as whole seconds (64 bits) and nanoseconds within the second.

The text of a duration is in the largest of the units s, ms, µs and ns in which it is at
least one, with as many decimal places as it needs.
-/

namespace Turnstile

structure Duration where
  secs : UInt64
  nanos : Fin 1000000000
  deriving DecidableEq

namespace Duration

def ofSecs (secs : UInt64) : Duration := ⟨secs, 0⟩

def ofMillis (ms : UInt64) : Duration :=
  ⟨ms / 1000, ⟨ms.toNat % 1000 * 1000000, by omega⟩⟩

/-- The length in nanoseconds. -/
def toNanos (d : Duration) : Nat := d.secs.toNat * 1000000000 + d.nanos.val

/-- The length in whole milliseconds, rounded down. -/
def toMillis (d : Duration) : Nat := d.secs.toNat * 1000 + d.nanos.val / 1000000

def isZero (d : Duration) : Bool := d.secs == 0 && d.nanos == 0

/-! ## Text -/

/-- `whole` and the fraction `part / 10 ^ width`, without trailing zeros. -/
def decimalText (whole part width : Nat) : List Char :=
  let places := ((Text.Decimal.padded width part).reverse.dropWhile (· == '0')).reverse
  Text.Decimal.digits whole ++ if places.isEmpty then [] else '.' :: places

def write (d : Duration) : List Char :=
  let n := d.nanos.val
  if d.secs ≠ 0 then decimalText d.secs.toNat n 9 ++ ['s']
  else if 1000000 ≤ n then decimalText (n / 1000000) (n % 1000000) 6 ++ ['m', 's']
  else if 1000 ≤ n then decimalText (n / 1000) (n % 1000) 3 ++ ['µ', 's']
  else decimalText n 0 0 ++ ['n', 's']

def text (d : Duration) : String := String.ofList d.write

theorem toNanos_ofSecs (secs : UInt64) : (ofSecs secs).toNanos = secs.toNat * 1000000000 := by
  simp [toNanos, ofSecs]

theorem toNanos_inj {a b : Duration} (h : a.toNanos = b.toNanos) : a = b := by
  have ha := a.nanos.isLt
  have hb := b.nanos.isLt
  unfold toNanos at h
  have hs : a.secs.toNat = b.secs.toNat := by omega
  have hn : a.nanos.val = b.nanos.val := by omega
  cases a; cases b
  exact congr (congrArg _ (UInt64.toNat_inj.1 hs)) (Fin.ext hn)

theorem isZero_iff (d : Duration) : d.isZero = true ↔ d.toNanos = 0 := by
  simp only [isZero, toNanos, Bool.and_eq_true, beq_iff_eq, Nat.add_eq_zero_iff,
    Nat.mul_eq_zero, ← UInt64.toNat_inj, Fin.ext_iff]
  simp

end Duration

end Turnstile

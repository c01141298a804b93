/-!
# Decimal integers

Writing a natural number or an integer in decimal, and reading one back. Read text
may carry one sign and any number of leading zeros; only ASCII digits count, and the
value has to fit the width that is asked for.

    readNat? (digits n) = some n        (readNat?_digits)
-/

namespace Turnstile.Text.Decimal

/-! ## Writing -/

/-- The digit of `n`, for `n < 10`. -/
def digit (n : Nat) : Char := Char.ofNat (48 + n)

/-- The decimal digits of `n`, most significant first, with no leading zero. -/
def digits (n : Nat) : List Char :=
  if n < 10 then [digit n] else digits (n / 10) ++ [digit (n % 10)]

def ofNat (n : Nat) : String := String.ofList (digits n)

def signedDigits : Int → List Char
  | .ofNat n => digits n
  | .negSucc n => '-' :: digits (n + 1)

def ofInt (i : Int) : String := String.ofList (signedDigits i)

/-- The digits of `n`, with zeros in front up to `width` characters. -/
def padded (width n : Nat) : List Char := (digits n).leftpad width '0'

/-! ## Reading -/

/-- The value of a list of digits. -/
def value (ds : List Char) : Nat := ds.foldl (fun v c => 10 * v + (c.toNat - 48)) 0

/-- One or more ASCII digits. -/
def readNat? (cs : List Char) : Option Nat :=
  if cs ≠ [] ∧ cs.all Char.isDigit then some (value cs) else none

/-- An unsigned number may carry a plus sign. -/
def readUnsigned? : List Char → Option Nat
  | '+' :: r => readNat? r
  | cs => readNat? cs

/-- A signed number may carry either sign. -/
def readSigned? : List Char → Option Int
  | '+' :: r => (readNat? r).map Int.ofNat
  | '-' :: r => (readNat? r).map fun n => -(n : Int)
  | cs => (readNat? cs).map Int.ofNat

def readUInt32? (cs : List Char) : Option UInt32 := do
  let n ← readUnsigned? cs
  if h : n < UInt32.size then some (UInt32.ofNatLT n h) else none

def readUInt64? (cs : List Char) : Option UInt64 := do
  let n ← readUnsigned? cs
  if h : n < UInt64.size then some (UInt64.ofNatLT n h) else none

def readInt64? (cs : List Char) : Option Int64 := do
  let i ← readSigned? cs
  if Int64.minValue.toInt ≤ i ∧ i ≤ Int64.maxValue.toInt then some (Int64.ofInt i) else none

/-! ## Lemmas -/

theorem digit_isDigit : ∀ n, n < 10 → (digit n).isDigit = true := by decide

theorem digit_toNat : ∀ n, n < 10 → (digit n).toNat = 48 + n := by decide

theorem digits_ne_nil (n : Nat) : digits n ≠ [] := by
  rw [digits]; split <;> simp

theorem digits_all_isDigit (n : Nat) : (digits n).all Char.isDigit = true := by
  induction n using Nat.strongRecOn with
  | _ n ih =>
    rw [digits]
    split
    · simpa using digit_isDigit n (by omega)
    · simpa using ⟨by simpa using ih (n / 10) (by omega), digit_isDigit (n % 10) (by omega)⟩

theorem value_append_digit (ds : List Char) (c : Char) :
    value (ds ++ [c]) = 10 * value ds + (c.toNat - 48) := by
  simp [value, List.foldl_append]

theorem value_digits (n : Nat) : value (digits n) = n := by
  induction n using Nat.strongRecOn with
  | _ n ih =>
    rw [digits]
    split
    · have := digit_toNat n (by omega)
      simp [value, this]
    · rw [value_append_digit, ih (n / 10) (by omega), digit_toNat (n % 10) (by omega)]
      omega

/-- What is written reads back. -/
theorem readNat?_digits (n : Nat) : readNat? (digits n) = some n := by
  simp only [readNat?, digits_ne_nil, digits_all_isDigit, value_digits, ne_eq, not_false_eq_true,
    and_self, if_true]

/-- Different numbers are written differently. -/
theorem digits_inj {m n : Nat} (h : digits m = digits n) : m = n := by
  rw [← value_digits m, h, value_digits n]

theorem not_mem_digits {c : Char} (h : c.isDigit = false) (n : Nat) : c ∉ digits n := by
  intro hc
  have hdigit := List.all_eq_true.1 (digits_all_isDigit n) c hc
  rw [h] at hdigit
  cases hdigit

end Turnstile.Text.Decimal

/-!
# Hexadecimal digits

Letters of either case are read; lowercase letters are written.

    value? (digit n) = some n for n < 16        (value?_digit)
    digits m = digits n only if m = n           (digits_inj)
-/

namespace Turnstile.Text.Hex

/-- The digit of `n`, for `n < 16`. -/
def digit (n : Nat) : Char := Char.ofNat (if n < 10 then 48 + n else 87 + n)

/-- The hexadecimal digits of `n`, most significant first, with no leading zero. -/
def digits (n : Nat) : List Char :=
  if n < 16 then [digit n] else digits (n / 16) ++ [digit (n % 16)]

def padded (width n : Nat) : List Char := (digits n).leftpad width '0'

/-- The value of one digit, in either case. -/
def value? (c : Char) : Option Nat :=
  let n := c.toNat
  if 48 ≤ n ∧ n ≤ 57 then some (n - 48)
  else if 97 ≤ n ∧ n ≤ 102 then some (n - 87)
  else if 65 ≤ n ∧ n ≤ 70 then some (n - 55)
  else none

/-- Exactly `k` digits after the value `acc`; the rest of the text is left. -/
def take? : (k acc : Nat) → List Char → Option (Nat × List Char)
  | 0, acc, cs => some (acc, cs)
  | _ + 1, _, [] => none
  | k + 1, acc, c :: cs => do
    let d ← value? c
    take? k (16 * acc + d) cs

theorem value?_digit : ∀ n, n < 16 → value? (digit n) = some n := by decide

theorem digits_ne_nil (n : Nat) : digits n ≠ [] := by
  rw [digits]; split <;> simp

theorem digit_inj {m n : Nat} (hm : m < 16) (hn : n < 16) (h : digit m = digit n) : m = n := by
  have hvalue := congrArg value? h
  rw [value?_digit m hm, value?_digit n hn] at hvalue
  exact Option.some.inj hvalue

/-- Only hexadecimal digits are written. -/
theorem not_mem_digits {c : Char} (h : value? c = none) (n : Nat) : c ∉ digits n := by
  have hdigit : ∀ d, d < 16 → c ≠ digit d := by
    intro d hd hc
    rw [hc, value?_digit d hd] at h
    cases h
  induction n using Nat.strongRecOn with
  | _ n ih =>
    rw [digits]
    split
    · simpa using hdigit n (by omega)
    · simpa using ⟨ih (n / 16) (by omega), hdigit (n % 16) (by omega)⟩

/-- Different numbers are written differently. -/
theorem digits_inj {m n : Nat} (h : digits m = digits n) : m = n := by
  induction m using Nat.strongRecOn generalizing n with
  | _ m ih =>
    rw [digits.eq_1 m, digits.eq_1 n] at h
    split at h <;> split at h
    · exact digit_inj (by omega) (by omega) (List.singleton_inj.1 h)
    · exact absurd (List.append_eq_singleton_iff.1 h.symm) (by simp [digits_ne_nil])
    · exact absurd (List.append_eq_singleton_iff.1 h) (by simp [digits_ne_nil])
    · obtain ⟨hfront, hlast⟩ := List.append_inj' h rfl
      have hdiv := ih (m / 16) (by omega) hfront
      have hmod := digit_inj (by omega) (by omega) (List.singleton_inj.1 hlast)
      omega
end Turnstile.Text.Hex

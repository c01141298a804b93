import Mathlib.Data.List.Induction
import Mathlib.Data.List.TakeWhile
import Turnstile.Text.Blank
import Turnstile.Text.Decimal

/-!
# Numbers in a text

What a text must be to be read as a number, said without a reader: an optional sign, any
number of zeros, and the digits of the number. Blanks around it are removed before. What is
written for a number is its usual text.

    ofInt i = toString i                                                (ofInt_eq_toString)
    trim cs = t            ↔  t has no blank at an end, and cs is t between blanks   (trim_eq_iff)
    readNat? cs = some n   ↔  IsNumeral cs n                            (readNat?_eq_some_iff)
    IsNumeral cs n         ↔  cs is one or more digits, of value n      (isNumeral_iff)
    Unsigned (trim cs) n   ↔  cs is a plus or none and digits of value n, between blanks
                                                                     (unsigned_trim_iff)
    readUInt64? cs = some n  ↔  Unsigned cs n.toNat                     (readUInt64?_eq_some_iff)
    readInt64? cs = some i   ↔  Signed cs i.toInt                       (readInt64?_eq_some_iff)
-/

namespace Turnstile.Text

/-! ## Blanks -/

def Blank (cs : List Char) : Prop := ∀ c ∈ cs, isBlank c = true

/-- Neither the first character is blank nor the last one. -/
def Bare (cs : List Char) : Prop :=
  (∀ c, cs.head? = some c → isBlank c = false) ∧ ∀ c, cs.getLast? = some c → isBlank c = false

theorem head?_trimStart {cs : List Char} {c : Char} (h : (trimStart cs).head? = some c) :
    isBlank c = false := by
  have hdrop := List.head?_dropWhile_not isBlank cs
  rw [trimStart] at h
  rw [h] at hdrop
  exact hdrop

/-- The text without the blanks at its end, and these. -/
theorem trimEnd_append (cs : List Char) : ∃ b, Blank b ∧ cs = trimEnd cs ++ b := by
  refine ⟨(cs.reverse.takeWhile isBlank).reverse, fun c hc => ?_, ?_⟩
  · rw [List.mem_reverse] at hc
    exact List.mem_takeWhile_imp hc
  · rw [trimEnd, ← List.reverse_append, List.takeWhile_append_dropWhile, List.reverse_reverse]

theorem bare_trim (cs : List Char) : Bare (trim cs) := by
  constructor
  · intro c hc
    obtain ⟨b, -, hb⟩ := trimEnd_append (trimStart cs)
    have hhead : (trimStart cs).head? = some c := by
      rw [hb, List.head?_append]
      exact Option.or_eq_some_iff.2 (.inl hc)
    exact head?_trimStart hhead
  · intro c hc
    rw [trim, trimEnd, List.getLast?_reverse] at hc
    exact head?_trimStart hc

theorem trim_of_bare {t a b : List Char} (ht : Bare t) (ha : Blank a) (hb : Blank b) :
    trim (a ++ t ++ b) = t := by
  have hstart : trimStart (a ++ t ++ b) = trimStart (t ++ b) := by
    rw [trimStart, List.append_assoc, List.dropWhile_append_of_pos ha, trimStart]
  have hend : trimEnd (t ++ b) = trimEnd t := by
    have hb' : ∀ c ∈ b.reverse, isBlank c = true := fun c hc => hb c (List.mem_reverse.1 hc)
    rw [trimEnd, List.reverse_append, List.dropWhile_append_of_pos hb', trimEnd]
  have hkept : trimEnd t = t := by
    cases hlast : t.reverse with
    | nil => rw [trimEnd, hlast, List.reverse_eq_nil_iff.1 hlast]; rfl
    | cons c r =>
      have hc : isBlank c = false := ht.2 c (by rw [List.getLast?_eq_head?_reverse, hlast]; rfl)
      rw [trimEnd, hlast, List.dropWhile_cons_of_neg (by rw [hc]; exact Bool.false_ne_true),
        ← hlast, List.reverse_reverse]
  rw [trim, hstart]
  cases t with
  | nil =>
    have hnone : trimStart b = [] := List.dropWhile_eq_nil_iff.2 hb
    rw [List.nil_append, hnone]
    rfl
  | cons c r =>
    have hc : isBlank c = false := ht.1 c rfl
    have hfront : trimStart (c :: r ++ b) = c :: r ++ b :=
      List.dropWhile_cons_of_neg (by rw [hc]; exact Bool.false_ne_true)
    rw [hfront, hend, hkept]

theorem trim_eq_iff (cs t : List Char) :
    trim cs = t ↔ Bare t ∧ ∃ a b, Blank a ∧ Blank b ∧ cs = a ++ t ++ b := by
  constructor
  · rintro rfl
    obtain ⟨b, hb, hends⟩ := trimEnd_append (trimStart cs)
    refine ⟨bare_trim cs, cs.takeWhile isBlank, b, fun c hc => List.mem_takeWhile_imp hc, hb, ?_⟩
    rw [trim, List.append_assoc, ← hends, trimStart, List.takeWhile_append_dropWhile]
  · rintro ⟨ht, a, b, ha, hb, rfl⟩
    exact trim_of_bare ht ha hb

namespace Decimal

/-! ## Digits -/

theorem digit_eq_digitChar : ∀ d, d < 10 → digit d = d.digitChar := by decide

theorem digits_eq_toDigits (n : Nat) : digits n = Nat.toDigits 10 n := by
  induction n using Nat.strongRecOn with
  | _ n ih =>
    rw [digits, Nat.toDigits_eq_if (by decide)]
    split
    · next hn => rw [digit_eq_digitChar n hn]
    · rw [ih (n / 10) (by omega), digit_eq_digitChar (n % 10) (by omega)]

theorem ofNat_eq_toString (n : Nat) : ofNat n = toString n := by
  rw [ofNat, digits_eq_toDigits, Nat.toString_eq_ofList_toDigits]

theorem ofInt_eq_toString (i : Int) : ofInt i = toString i := by
  cases i with
  | ofNat n => exact ofNat_eq_toString n
  | negSucc n =>
    have hminus : String.ofList ('-' :: digits (n + 1)) = "-" ++ ofNat (n + 1) := by
      rw [ofNat, ← String.toList_inj]
      simp
    show String.ofList ('-' :: digits (n + 1)) = "-" ++ (n + 1).repr
    rw [hminus, ofNat_eq_toString]
    rfl

/-! ## Numerals -/

/-- The digits of `n`, with any number of zeros in front. -/
def IsNumeral (cs : List Char) (n : Nat) : Prop := ∃ k, cs = List.replicate k '0' ++ digits n

/-- What is read as a number without a sign: a plus may be there. -/
inductive Unsigned : List Char → Nat → Prop
  | plain {cs : List Char} {n : Nat} : IsNumeral cs n → Unsigned cs n
  | plus {cs : List Char} {n : Nat} : IsNumeral cs n → Unsigned ('+' :: cs) n

/-- What is read as a number with a sign. -/
inductive Signed : List Char → Int → Prop
  | plain {cs : List Char} {n : Nat} : IsNumeral cs n → Signed cs n
  | plus {cs : List Char} {n : Nat} : IsNumeral cs n → Signed ('+' :: cs) n
  | minus {cs : List Char} {n : Nat} : IsNumeral cs n → Signed ('-' :: cs) (-n)

theorem value_zeros_append (k : Nat) (ds : List Char) :
    value (List.replicate k '0' ++ ds) = value ds := by
  induction k with
  | zero => rfl
  | succ k ih =>
    rw [List.replicate_succ, List.cons_append]
    exact ih

theorem isDigit_iff (c : Char) : c.isDigit = true ↔ ∃ d, d < 10 ∧ c = digit d := by
  constructor
  · intro h
    have hbounds : 48 ≤ c.toNat ∧ c.toNat ≤ 57 := by
      simpa [Char.isDigit, UInt32.le_iff_toNat_le] using h
    refine ⟨c.toNat - 48, by omega, ?_⟩
    rw [digit, show 48 + (c.toNat - 48) = c.toNat by omega, Char.ofNat_toNat]
  · rintro ⟨d, hd, rfl⟩
    exact digit_isDigit d hd

/-- The digit written last. -/
theorem digits_append_digit {v d : Nat} (hv : 0 < v) (hd : d < 10) :
    digits (10 * v + d) = digits v ++ [digit d] := by
  have hquotient : (10 * v + d) / 10 = v := by omega
  have hrest : (10 * v + d) % 10 = d := by omega
  rw [digits, if_neg (by omega), hquotient, hrest]

theorem digits_of_lt {d : Nat} (hd : d < 10) : digits d = [digit d] := by
  rw [digits, if_pos hd]

/-- Digits are the digits of their value, after zeros. -/
theorem isNumeral_value {cs : List Char} (hne : cs ≠ []) (hall : ∀ c ∈ cs, c.isDigit = true) :
    IsNumeral cs (value cs) := by
  -- from the right, as the digits are written
  induction cs using List.reverseRecOn with
  | nil => exact absurd rfl hne
  | append_singleton cs c ih =>
    obtain ⟨d, hd, rfl⟩ := (isDigit_iff c).1 (hall c (by simp))
    rw [value_append_digit, digit_toNat d hd, Nat.add_sub_cancel_left]
    by_cases hcs : cs = []
    · subst hcs
      have hdigits : digits (10 * value [] + d) = [digit d] := by
        rw [show 10 * value [] + d = d by simp [value], digits_of_lt hd]
      exact ⟨0, by rw [hdigits]; rfl⟩
    · obtain ⟨k, hk⟩ := ih hcs fun c hc => hall c (by simp [hc])
      by_cases hv : 0 < value cs
      · refine ⟨k, ?_⟩
        rw [digits_append_digit hv hd, ← List.append_assoc, ← hk]
      · -- only zeros so far
        have hzero : value cs = 0 := by omega
        rw [hzero, digits_of_lt (by omega)] at hk
        refine ⟨k + 1, ?_⟩
        rw [hzero, Nat.mul_zero, Nat.zero_add, digits_of_lt hd, hk, List.replicate_succ']
        rfl

/-- A number is read from its digits after zeros, and from nothing else. -/
theorem readNat?_eq_some_iff (cs : List Char) (n : Nat) :
    readNat? cs = some n ↔ IsNumeral cs n := by
  constructor
  · intro h
    rw [readNat?] at h
    split at h
    · next hdigits =>
      rw [← Option.some.inj h]
      exact isNumeral_value hdigits.1 (List.all_eq_true.1 hdigits.2)
    · cases h
  · rintro ⟨k, rfl⟩
    have hzeros : (List.replicate k '0').all Char.isDigit = true :=
      List.all_eq_true.2 fun c hc => by rw [List.eq_of_mem_replicate hc]; rfl
    have hne : List.replicate k '0' ++ digits n ≠ [] := fun hnil =>
      digits_ne_nil n (List.append_eq_nil_iff.1 hnil).2
    have hall : (List.replicate k '0' ++ digits n).all Char.isDigit = true := by
      rw [List.all_append, hzeros, digits_all_isDigit, Bool.and_true]
    rw [readNat?, if_pos ⟨hne, hall⟩, value_zeros_append, value_digits]

theorem isNumeral_iff (cs : List Char) (n : Nat) :
    IsNumeral cs n ↔ cs ≠ [] ∧ (∀ c ∈ cs, c.isDigit = true) ∧ value cs = n := by
  rw [← readNat?_eq_some_iff, readNat?]
  split
  · next hdigits =>
    rw [Option.some.injEq]
    exact ⟨fun h => ⟨hdigits.1, List.all_eq_true.1 hdigits.2, h⟩, fun h => h.2.2⟩
  · next hdigits =>
    constructor
    · intro h
      cases h
    · rintro ⟨hne, hall, -⟩
      exact absurd ⟨hne, List.all_eq_true.2 hall⟩ hdigits

theorem IsNumeral.head_isDigit {c : Char} {cs : List Char} {n : Nat} (h : IsNumeral (c :: cs) n) :
    c.isDigit = true :=
  ((isNumeral_iff _ _).1 h).2.1 c List.mem_cons_self

/-! ## Signs -/

theorem readUnsigned?_eq_some_iff (cs : List Char) (n : Nat) :
    readUnsigned? cs = some n ↔ Unsigned cs n := by
  unfold readUnsigned?
  split
  · next r =>
    rw [readNat?_eq_some_iff]
    constructor
    · exact .plus
    · rintro (h | h)
      · exact absurd h.head_isDigit (by decide)
      · exact h
  · next hplus =>
    rw [readNat?_eq_some_iff]
    constructor
    · exact .plain
    · rintro (h | h)
      · exact h
      · exact absurd rfl (hplus _)

theorem isBlank_of_isDigit {c : Char} (h : c.isDigit = true) : isBlank c = false := by
  have hdigits : ∀ d, d < 10 → isBlank (digit d) = false := by decide
  obtain ⟨d, hd, rfl⟩ := (isDigit_iff c).1 h
  exact hdigits d hd

/-- A number has no blanks at its ends. -/
theorem Unsigned.bare {cs : List Char} {n : Nat} (h : Unsigned cs n) : Bare cs := by
  have hplus : isBlank '+' = false := by decide
  have hmem : ∀ c ∈ cs, isBlank c = false := by
    intro c hc
    cases h with
    | plain h => exact isBlank_of_isDigit (((isNumeral_iff _ _).1 h).2.1 c hc)
    | plus h =>
      rcases List.mem_cons.1 hc with rfl | hc
      · exact hplus
      · exact isBlank_of_isDigit (((isNumeral_iff _ _).1 h).2.1 c hc)
  exact ⟨fun c hc => hmem c (List.mem_of_head? hc), fun c hc => hmem c (List.mem_of_getLast? hc)⟩

/-- One or more digits of this value, after a plus or none, with blanks around them. -/
def Padded (cs : List Char) (n : Nat) : Prop :=
  ∃ before sign ds after, cs = before ++ (sign ++ ds) ++ after ∧ Blank before ∧ Blank after ∧
    (sign = [] ∨ sign = ['+']) ∧ ds ≠ [] ∧ (∀ c ∈ ds, c.isDigit = true) ∧ value ds = n

theorem unsigned_trim_iff (cs : List Char) (n : Nat) : Unsigned (trim cs) n ↔ Padded cs n := by
  constructor
  · intro h
    obtain ⟨-, before, after, hbefore, hafter, hcs⟩ := (trim_eq_iff cs _).1 rfl
    generalize trim cs = t at h hcs
    cases h with
    | plain h => exact ⟨before, [], _, after, hcs, hbefore, hafter, .inl rfl, (isNumeral_iff _ _).1 h⟩
    | plus h =>
      exact ⟨before, ['+'], _, after, hcs, hbefore, hafter, .inr rfl, (isNumeral_iff _ _).1 h⟩
  · rintro ⟨before, sign, ds, after, rfl, hbefore, hafter, hsign, hds⟩
    have h : Unsigned (sign ++ ds) n := by
      rcases hsign with rfl | rfl
      · exact .plain ((isNumeral_iff _ _).2 hds)
      · exact .plus ((isNumeral_iff _ _).2 hds)
    -- no blank is part of a number, so just those around it are removed
    rw [trim_of_bare h.bare hbefore hafter]
    exact h

theorem padded_digits (n : Nat) : Padded (digits n) n :=
  ⟨[], [], digits n, [], (List.append_nil _).symm, List.forall_mem_nil _, List.forall_mem_nil _,
    .inl rfl, digits_ne_nil n, List.all_eq_true.1 (digits_all_isDigit n), value_digits n⟩

theorem readSigned?_eq_some_iff (cs : List Char) (i : Int) :
    readSigned? cs = some i ↔ Signed cs i := by
  unfold readSigned?
  split
  · next r =>
    simp only [Option.map_eq_some_iff, readNat?_eq_some_iff]
    constructor
    · rintro ⟨n, h, rfl⟩
      exact .plus h
    · rintro (h | h | h)
      · exact absurd h.head_isDigit (by decide)
      · exact ⟨_, h, rfl⟩
  · next r =>
    rw [Option.map_eq_some_iff]
    constructor
    · rintro ⟨j, hj, rfl⟩
      obtain ⟨n, hn, hj⟩ := Option.bind_eq_some_iff.1 hj
      cases hj
      exact .minus ((readNat?_eq_some_iff _ _).1 hn)
    · rintro (h | h | h)
      · exact absurd h.head_isDigit (by decide)
      · exact ⟨_, Option.bind_eq_some_iff.2 ⟨_, (readNat?_eq_some_iff _ _).2 h, rfl⟩, rfl⟩
  · next hplus hminus =>
    simp only [Option.map_eq_some_iff, readNat?_eq_some_iff]
    constructor
    · rintro ⟨n, h, rfl⟩
      exact .plain h
    · rintro (h | h | h)
      · exact ⟨_, h, rfl⟩
      · exact absurd rfl (hplus _)
      · exact absurd rfl (hminus _)

theorem signed_signedDigits (i : Int) : Signed (signedDigits i) i := by
  cases i with
  | ofNat n => exact .plain ⟨0, rfl⟩
  | negSucc n => exact .minus (n := n + 1) ⟨0, rfl⟩

/-- Different integers are written differently. -/
theorem signedDigits_inj {i j : Int} (h : signedDigits i = signedDigits j) : i = j := by
  have hi := (readSigned?_eq_some_iff _ _).2 (signed_signedDigits i)
  have hj := (readSigned?_eq_some_iff _ _).2 (signed_signedDigits j)
  rw [h, hj] at hi
  exact (Option.some.inj hi).symm

theorem not_mem_signedDigits {c : Char} (hdigit : c.isDigit = false) (hminus : c ≠ '-')
    (i : Int) : c ∉ signedDigits i := by
  cases i with
  | ofNat n => exact not_mem_digits hdigit n
  | negSucc n =>
    intro h
    rcases List.mem_cons.1 h with h | h
    · exact hminus h
    · exact not_mem_digits hdigit _ h

/-! ## Widths -/

theorem readUInt32?_eq_some_iff (cs : List Char) (n : UInt32) :
    readUInt32? cs = some n ↔ Unsigned cs n.toNat := by
  rw [← readUnsigned?_eq_some_iff, readUInt32?]
  constructor
  · intro h
    obtain ⟨k, hk, h⟩ := Option.bind_eq_some_iff.1 h
    split at h
    · cases h
      exact hk
    · cases h
  · intro h
    simp only [h, Option.bind_eq_bind, Option.bind_some]
    rw [dif_pos n.toNat_lt]
    exact congrArg some (UInt32.toNat_inj.1 rfl)

theorem readUInt64?_eq_some_iff (cs : List Char) (n : UInt64) :
    readUInt64? cs = some n ↔ Unsigned cs n.toNat := by
  rw [← readUnsigned?_eq_some_iff, readUInt64?]
  constructor
  · intro h
    obtain ⟨k, hk, h⟩ := Option.bind_eq_some_iff.1 h
    split at h
    · cases h
      exact hk
    · cases h
  · intro h
    simp only [h, Option.bind_eq_bind, Option.bind_some]
    rw [dif_pos n.toNat_lt]
    exact congrArg some (UInt64.toNat_inj.1 rfl)

theorem readInt64?_eq_some_iff (cs : List Char) (i : Int64) :
    readInt64? cs = some i ↔ Signed cs i.toInt := by
  rw [← readSigned?_eq_some_iff, readInt64?]
  constructor
  · intro h
    obtain ⟨k, hk, h⟩ := Option.bind_eq_some_iff.1 h
    split at h
    · next hfits =>
      rw [Int64.toInt_minValue, Int64.toInt_maxValue] at hfits
      cases h
      rw [hk, Int64.toInt_ofInt_of_le hfits.1 (by omega)]
    · cases h
  · intro h
    simp only [h, Option.bind_eq_bind, Option.bind_some]
    rw [if_pos ⟨Int64.le_toInt i, Int64.toInt_le i⟩, Int64.ofInt_toInt]

end Decimal

end Turnstile.Text

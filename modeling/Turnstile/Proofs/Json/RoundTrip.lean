import Turnstile.Json.Printer
import Turnstile.Json.Reader

/-!
# What is printed reads back

Any value but those that are only kept as they were written is printed and read back as it
was. The proof goes up the tree: a string reads back piece by piece, a number up to where its
digits end, and items and fields if each of them does. The count of steps is enough because
each step is paid for by a character, and a value by two of them.

    pieces? (cs.flatMap escape ++ '"' :: rest) = some (pieces of cs, rest)   (pieces?_escape)
    number? (signedDigits i ++ rest) = some (.int i, rest)                   (number?_signedDigits)
    readValue? fuel (write j ++ rest) = some (j, rest)                       (reads_of_plain)
    ofText? j.text = some j                                                  (ofText?_text)
-/

namespace Turnstile.Json

open Turnstile.Text

/-- No part of the value is one that is only kept as it was written. -/
inductive Plain : Json → Prop
  | null : Plain .null
  | bool (b : Bool) : Plain (.bool b)
  | int (i : Int) : Plain (.int i)
  | str (s : String) : Plain (.str s)
  | arr {items : List Json} : (∀ j ∈ items, Plain j) → Plain (.arr items)
  | obj {fields : List (String × Json)} : (∀ f ∈ fields, Plain f.2) → Plain (.obj fields)

/-- What may come after a value: nothing, or the next mark of the list it is in. -/
def Stops (rest : List Char) : Prop :=
  ∀ c, rest.head? = some c → c = ',' ∨ c = ']' ∨ c = '}'

/-- Read from its text and what comes after, the value comes back. -/
def Reads (j : Json) : Prop :=
  ∀ (fuel : Nat) (rest : List Char), 2 * (write j).length ≤ fuel + 2 → Stops rest →
    readValue? (fuel + 1) (write j ++ rest) = some (j, rest)

/-! ## Strings -/

/-- The part of a string that a character is read as. -/
def pieceOf (c : Char) : Piece :=
  if c.toNat < 0x20 ∧ c.toNat ∉ [0x08, 0x09, 0x0A, 0x0C, 0x0D] then .unit c.toNat else .char c

theorem padded_of_lt {n : Nat} (h : n < 0x20) :
    Hex.padded 4 n = ['0', '0', Hex.digit (n / 16), Hex.digit (n % 16)] := by
  have hzero : Hex.digit 0 = '0' := rfl
  by_cases hone : n < 16
  · have hdigits : Hex.digits n = [Hex.digit n] := by rw [Hex.digits, if_pos hone]
    rw [Hex.padded, hdigits, Nat.div_eq_of_lt hone, Nat.mod_eq_of_lt hone, hzero]
    rfl
  · have hdigits : Hex.digits n = [Hex.digit (n / 16), Hex.digit (n % 16)] := by
      rw [Hex.digits, if_neg hone, Hex.digits, if_pos (by omega)]
      rfl
    rw [Hex.padded, hdigits]
    rfl

theorem take?_padded {n : Nat} (h : n < 0x20) :
    Hex.take? 4 0 ['0', '0', Hex.digit (n / 16), Hex.digit (n % 16)] = some (n, []) := by
  have hzero : Hex.value? '0' = some 0 := rfl
  have hvalue : 16 * (16 * (16 * (16 * 0 + 0) + 0) + n / 16) + n % 16 = n := by omega
  simp only [Hex.take?, hzero, Hex.value?_digit (n / 16) (by omega),
    Hex.value?_digit (n % 16) (by omega), Option.bind_eq_bind, Option.bind_some, hvalue]

theorem pieces?_plain {c : Char} (hquote : c ≠ '"') (hslash : c ≠ '\\') (h : ¬ c.toNat < 0x20)
    (r : List Char) : pieces? (c :: r) = (pieces? r).map fun p => (.char c :: p.1, p.2) := by
  rw [pieces?.eq_def]
  split
  · simp_all
  · simp_all
  · simp_all
  · simp_all
  · next c' r' _ _ _ heq =>
    cases heq
    rw [if_neg (by simp [hslash, h])]
    cases pieces? r <;> rfl

theorem pieces?_short {e d : Char} (he : shortEscape? e = some d) (hu : e ≠ 'u') (r : List Char) :
    pieces? ('\\' :: e :: r) = (pieces? r).map fun p => (.char d :: p.1, p.2) := by
  rw [pieces?.eq_def]
  split
  · simp_all
  · simp_all
  · simp_all
  · next e' r' _ heq =>
    cases heq
    rw [he]
    cases pieces? r <;> rfl
  · next c' r' _ _ hnot heq =>
    cases heq
    exact absurd rfl (hnot e r rfl)

theorem pieces?_unit {n : Nat} (h : n < 0x20) (r : List Char) :
    pieces? ('\\' :: 'u' :: Hex.padded 4 n ++ r) =
      (pieces? r).map fun p => (.unit n :: p.1, p.2) := by
  rw [padded_of_lt h]
  show pieces? ('\\' :: 'u' :: '0' :: '0' :: Hex.digit (n / 16) :: Hex.digit (n % 16) :: r) = _
  rw [pieces?, take?_padded h]
  cases pieces? r <;> rfl

/-- Each character is read back on its own. -/
theorem pieces?_escape_append (c : Char) (r : List Char) :
    pieces? (escape c ++ r) = (pieces? r).map fun p => (pieceOf c :: p.1, p.2) := by
  have hkept : c.toNat ∈ [0x08, 0x09, 0x0A, 0x0C, 0x0D] ∨ ¬ c.toNat < 0x20 →
      pieceOf c = .char c := by
    intro h
    rw [pieceOf, if_neg]
    rintro ⟨hlt, hnot⟩
    rcases h with h | h
    · exact hnot h
    · exact h hlt
  have hshort : ∀ {n : Nat} {e : Char}, c.toNat = n →
      n ∈ [0x08, 0x09, 0x0A, 0x0C, 0x0D] ∨ ¬ n < 0x20 → shortEscape? e = some (Char.ofNat n) → e ≠ 'u' →
      pieces? (['\\', e] ++ r) = (pieces? r).map fun p => (pieceOf c :: p.1, p.2) := by
    rintro n e rfl hn he hu
    rw [Char.ofNat_toNat] at he
    rw [hkept hn]
    exact pieces?_short he hu r
  unfold escape
  split
  · next hc => exact hshort (congrArg Char.toNat hc) (by decide) rfl (by decide)
  split
  · next hc => exact hshort (congrArg Char.toNat hc) (by decide) rfl (by decide)
  split
  · next hc => exact hshort hc (by decide) rfl (by decide)
  split
  · next hc => exact hshort hc (by decide) rfl (by decide)
  split
  · next hc => exact hshort hc (by decide) rfl (by decide)
  split
  · next hc => exact hshort hc (by decide) rfl (by decide)
  split
  · next hc => exact hshort hc (by decide) rfl (by decide)
  split
  · next h₈ h₉ hA hC hD hc =>
    have hpiece : pieceOf c = .unit c.toNat := if_pos ⟨hc, by simp [h₈, h₉, hA, hC, hD]⟩
    rw [hpiece]
    exact pieces?_unit hc r
  · next hquote hslash _ _ _ _ _ hc =>
    rw [hkept (.inr hc)]
    exact pieces?_plain hquote hslash hc r

theorem pieces?_escape (cs rest : List Char) :
    pieces? (cs.flatMap escape ++ '"' :: rest) = some (cs.map pieceOf, rest) := by
  induction cs with
  | nil => rfl
  | cons c cs ih =>
    rw [List.flatMap_cons, List.append_assoc, pieces?_escape_append, ih]
    rfl

/-- A code unit that is no surrogate stands for a character by itself. -/
theorem join?_unit {n : Nat} (h : n < 0xD800) (r : List Piece) :
    join? (.unit n :: r) = (join? r).map (Char.ofNat n :: ·) := by
  have hhigh : isHighSurrogate n = false := by
    rw [isHighSurrogate, Bool.and_eq_false_iff]
    exact .inl (decide_eq_false (by omega))
  have hlow : isLowSurrogate n = false := by
    rw [isLowSurrogate, Bool.and_eq_false_iff]
    exact .inl (decide_eq_false (by omega))
  rw [join?.eq_def]
  split
  · simp_all
  · simp_all
  · next heq =>
    cases heq
    rw [hhigh, hlow]
    rfl
  · next heq =>
    cases heq
    rw [hhigh, hlow]
    rfl

theorem join?_map_pieceOf (cs : List Char) : join? (cs.map pieceOf) = some cs := by
  induction cs with
  | nil => rfl
  | cons c cs ih =>
    rw [List.map_cons, pieceOf]
    split
    · next h => rw [join?_unit (by omega), ih, Option.map_some, Char.ofNat_toNat]
    · rw [join?, ih, Option.map_some]

theorem string?_escape (s : String) (cs rest : List Char) :
    string? cs (s.toList.flatMap escape ++ '"' :: rest) = some (.str s, rest) := by
  rw [string?, pieces?_escape]
  simp only [Option.bind_eq_bind, Option.bind_some, join?_map_pieceOf, String.ofList_toList]

/-! ## Numbers -/

/-- Only zero is written with a zero in front. -/
theorem head?_digits_ne {n : Nat} (h : 0 < n) : (Decimal.digits n).head? ≠ some '0' := by
  have hdigit : ∀ d, d < 10 → 0 < d → Decimal.digit d ≠ '0' := by decide
  induction n using Nat.strongRecOn with
  | _ n ih =>
    rw [Decimal.digits]
    split
    · next hlt =>
      intro hhead
      exact hdigit n hlt h (Option.some.inj hhead)
    · have hfront := ih (n / 10) (by omega) (by omega)
      rw [List.head?_append]
      intro hhead
      rcases Option.or_eq_some_iff.1 hhead with hhead | ⟨hnone, -⟩
      · exact hfront hhead
      · exact Decimal.digits_ne_nil _ (List.head?_eq_none_iff.1 hnone)

theorem digits_leading (n : Nat) :
    ¬ ((Decimal.digits n).head? = some '0' ∧ 1 < (Decimal.digits n).length) := by
  rintro ⟨hhead, hlength⟩
  by_cases h : 0 < n
  · exact head?_digits_ne h hhead
  · have hzero : n = 0 := by omega
    rw [hzero, Decimal.digits] at hlength
    exact absurd hlength (by decide)

/-- What stops a value stops its digits. -/
theorem Stops.isDigit_eq_false {rest : List Char} (h : Stops rest) {c : Char}
    (hc : rest.head? = some c) : c.isDigit = false := by
  rcases h c hc with rfl | rfl | rfl
  · rfl
  · rfl
  · rfl

theorem spanDigits_digits (n : Nat) {rest : List Char} (h : Stops rest) :
    spanDigits (Decimal.digits n ++ rest) = (Decimal.digits n, rest) := by
  have hall := List.all_eq_true.1 (Decimal.digits_all_isDigit n)
  have hfront : rest.takeWhile Char.isDigit = [] ∧ rest.dropWhile Char.isDigit = rest := by
    cases rest with
    | nil => exact ⟨rfl, rfl⟩
    | cons c r =>
      have hc : ¬ c.isDigit = true := by rw [h.isDigit_eq_false rfl]; exact Bool.false_ne_true
      exact ⟨List.takeWhile_cons_of_neg hc, List.dropWhile_cons_of_neg hc⟩
  rw [spanDigits, List.takeWhile_append_of_pos hall, List.dropWhile_append_of_pos hall, hfront.1,
    hfront.2, List.append_nil]

theorem skipFraction?_stops {rest : List Char} (h : Stops rest) :
    skipFraction? rest = some (false, rest) := by
  unfold skipFraction?
  split
  · rcases h '.' rfl with h | h | h <;> exact absurd h (by decide)
  · rfl

theorem skipExponent?_stops {rest : List Char} (h : Stops rest) :
    skipExponent? rest = some (false, rest) := by
  unfold skipExponent?
  split
  · next c r =>
    have hc : ¬ (c = 'e' ∨ c = 'E') := by
      rcases h c rfl with rfl | rfl | rfl <;> decide
    rw [if_neg hc]
  · rfl

theorem digits_append_ne_minus (n : Nat) (rest r : List Char) :
    Decimal.digits n ++ rest ≠ '-' :: r := by
  intro heq
  have hminus : '-' ∈ Decimal.digits n := by
    cases hd : Decimal.digits n with
    | nil => exact absurd hd (Decimal.digits_ne_nil n)
    | cons d ds =>
      rw [hd] at heq
      rw [(List.cons.inj heq).1]
      exact List.mem_cons_self
  exact Decimal.not_mem_digits rfl n hminus

/-- A number reads back before anything that stops it. -/
theorem number?_signedDigits (i : Int) {rest : List Char} (h : Stops rest) :
    number? (Decimal.signedDigits i ++ rest) = some (.int i, rest) := by
  have hne : (Decimal.digits i.natAbs).isEmpty = false := by
    rw [List.isEmpty_eq_false_iff]
    exact Decimal.digits_ne_nil _
  unfold number?
  split
  next negative r hsign =>
  have hparts : negative = decide (i < 0) ∧ r = Decimal.digits i.natAbs ++ rest := by
    cases i with
    | negSucc n =>
      cases hsign
      exact ⟨(decide_eq_true (Int.negSucc_lt_zero n)).symm, rfl⟩
    | ofNat n =>
      split at hsign
      · next heq => exact absurd heq (digits_append_ne_minus n rest _)
      · cases hsign
        exact ⟨by simp, rfl⟩
  obtain ⟨rfl, rfl⟩ := hparts
  have hminus : (decide (i < 0) && i.natAbs == 0) = false := by
    rw [Bool.and_eq_false_iff, decide_eq_false_iff_not, beq_eq_false_iff_ne]
    omega
  rw [spanDigits_digits _ h]
  dsimp only
  rw [if_neg (by rw [hne]; simpa using digits_leading i.natAbs), skipFraction?_stops h]
  simp only [Option.bind_eq_bind, Option.bind_some, skipExponent?_stops h, Decimal.value_digits,
    Bool.false_or, hminus, Bool.false_eq_true, if_false]
  split
  · next hneg =>
    have hvalue : -(i.natAbs : Int) = i := by
      have := of_decide_eq_true hneg
      omega
    rw [hvalue]
  · next hneg =>
    have hvalue : (i.natAbs : Int) = i := by
      have := of_decide_eq_false (Bool.not_eq_true _ ▸ hneg)
      omega
    rw [hvalue]

/-! ## Values -/

theorem skipSpace_cons {c : Char} (h : isSpace c = false) (r : List Char) :
    skipSpace (c :: r) = c :: r :=
  List.dropWhile_cons_of_neg (by rw [h]; exact Bool.false_ne_true)

/-- A number begins with a minus or a digit. -/
theorem signedDigits_front (i : Int) :
    ∃ c r, Decimal.signedDigits i = c :: r ∧ (c = '-' ∨ c.isDigit = true) := by
  cases i with
  | negSucc n => exact ⟨'-', _, rfl, .inl rfl⟩
  | ofNat n =>
    have hall := List.all_eq_true.1 (Decimal.digits_all_isDigit n)
    cases hd : Decimal.digits n with
    | nil => exact absurd hd (Decimal.digits_ne_nil n)
    | cons c r =>
      rw [hd] at hall
      exact ⟨c, r, hd, .inr (hall c List.mem_cons_self)⟩

theorem ne_of_sign_or_digit {c x : Char} (hc : c = '-' ∨ c.isDigit = true) (hx : x ≠ '-')
    (hdigit : x.isDigit = false) : c ≠ x := by
  rintro rfl
  rcases hc with hc | hc
  · exact hx hc
  · rw [hdigit] at hc
    cases hc

/-- A value begins with no space, and not with the mark that ends a list. -/
theorem write_front {j : Json} (h : Plain j) :
    ∃ c r, write j = c :: r ∧ isSpace c = false ∧ c ≠ ']' := by
  cases h with
  | null => exact ⟨_, _, rfl, rfl, by decide⟩
  | bool b => cases b <;> exact ⟨_, _, rfl, rfl, by decide⟩
  | str s => exact ⟨_, _, rfl, rfl, by decide⟩
  | arr _ => exact ⟨_, _, rfl, rfl, by decide⟩
  | obj _ => exact ⟨_, _, rfl, rfl, by decide⟩
  | int i =>
    obtain ⟨c, r, hwrite, hc⟩ := signedDigits_front i
    have hspace : isSpace c = false := by
      simp only [isSpace, Bool.or_eq_false_iff, beq_eq_false_iff_ne]
      exact ⟨⟨⟨ne_of_sign_or_digit hc (by decide) rfl, ne_of_sign_or_digit hc (by decide) rfl⟩,
        ne_of_sign_or_digit hc (by decide) rfl⟩, ne_of_sign_or_digit hc (by decide) rfl⟩
    exact ⟨c, r, hwrite, hspace, ne_of_sign_or_digit hc (by decide) rfl⟩

theorem reads_int (i : Int) : Reads (.int i) := by
  intro fuel rest _ hrest
  obtain ⟨c, r, hwrite, hc⟩ := signedDigits_front i
  obtain ⟨_, _, hfront, hspace, -⟩ := write_front (.int i)
  have hnumber := number?_signedDigits i hrest
  show readValue? (fuel + 1) (Decimal.signedDigits i ++ rest) = _
  rw [hwrite, List.cons_append] at hnumber ⊢
  rw [show write (.int i) = c :: r from hwrite] at hfront
  cases hfront
  rw [readValue?, skipSpace_cons hspace]
  split
  · next heq => exact absurd (List.cons.inj heq).1 (ne_of_sign_or_digit hc (by decide) rfl)
  · next heq => exact absurd (List.cons.inj heq).1 (ne_of_sign_or_digit hc (by decide) rfl)
  · next heq => exact absurd (List.cons.inj heq).1 (ne_of_sign_or_digit hc (by decide) rfl)
  · next heq => exact absurd (List.cons.inj heq).1 (ne_of_sign_or_digit hc (by decide) rfl)
  · next heq => exact absurd (List.cons.inj heq).1 (ne_of_sign_or_digit hc (by decide) rfl)
  · next heq => exact absurd (List.cons.inj heq).1 (ne_of_sign_or_digit hc (by decide) rfl)
  · exact hnumber

theorem reads_str (s : String) : Reads (.str s) := by
  intro fuel rest _ _
  show readValue? (fuel + 1) ('"' :: s.toList.flatMap escape ++ ['"'] ++ rest) = _
  rw [List.append_assoc]
  exact string?_escape s _ rest

/-- Items read back up to their closing bracket if each of them does. -/
theorem readItems?_write {items : List Json} (hplain : ∀ j ∈ items, Plain j)
    (hreads : ∀ j ∈ items, Reads j) (hne : items ≠ []) {fuel : Nat}
    (hfuel : 2 * (writeItems items).length ≤ fuel + 1) (rest : List Char) :
    readItems? (fuel + 1) (writeItems items ++ ']' :: rest) = some (items, rest) := by
  induction items generalizing fuel with
  | nil => exact absurd rfl hne
  | cons j items ih =>
    obtain ⟨c, r, hfront, -, -⟩ := write_front (hplain j List.mem_cons_self)
    have hpos : 1 ≤ (write j).length := by rw [hfront]; exact Nat.succ_pos _
    have hj := hreads j List.mem_cons_self
    cases items with
    | nil =>
      rw [writeItems] at hfuel ⊢
      cases fuel with
      | zero => omega
      | succ fuel =>
        have hstops : Stops (']' :: rest) := fun c hc => by cases hc; exact .inr (.inl rfl)
        rw [readItems?, hj fuel _ hfuel hstops]
        rfl
    | cons k items =>
      rw [writeItems, List.length_append, List.length_cons] at hfuel
      rw [writeItems, List.append_assoc, List.cons_append]
      cases fuel with
      | zero => omega
      | succ fuel =>
        have hstops : Stops (',' :: (writeItems (k :: items) ++ ']' :: rest)) := fun c hc => by
          cases hc
          exact .inl rfl
        have hrest := @ih (fun j hj => hplain j (List.mem_cons_of_mem _ hj))
          (fun j hj => hreads j (List.mem_cons_of_mem _ hj)) (List.cons_ne_nil _ _) fuel (by omega)
        rw [readItems?, hj fuel _ (by omega) hstops]
        show (readItems? (fuel + 1) (writeItems (k :: items) ++ ']' :: rest) >>= _) = _
        rw [hrest]
        rfl

theorem readValue?_items {fuel : Nat} {c : Char} (hspace : isSpace c = false) (hmark : c ≠ ']')
    (r : List Char) :
    readValue? (fuel + 1) ('[' :: c :: r) =
      (readItems? fuel (c :: r)).map fun p => (Json.arr p.1, p.2) := by
  simp only [readValue?, skipSpace_cons hspace, skipSpace_cons (c := '[') rfl]
  split
  · next heq => exact absurd (List.cons.inj heq).1 hmark
  · cases readItems? fuel (c :: r) <;> rfl

theorem reads_arr {items : List Json} (hplain : ∀ j ∈ items, Plain j)
    (hreads : ∀ j ∈ items, Reads j) : Reads (.arr items) := by
  intro fuel rest hfuel _
  have hlength : (write (.arr items)).length = (writeItems items).length + 2 := by
    rw [write, List.length_append, List.length_cons]
    rfl
  show readValue? (fuel + 1) ('[' :: writeItems items ++ [']'] ++ rest) = _
  rw [List.append_assoc, List.cons_append, List.singleton_append]
  cases items with
  | nil => rfl
  | cons j items =>
    have hitems : ∃ c r, writeItems (j :: items) = c :: r ∧ isSpace c = false ∧ c ≠ ']' := by
      obtain ⟨c, r, hfront, hspace, hmark⟩ := write_front (hplain j List.mem_cons_self)
      cases items with
      | nil => exact ⟨c, r, hfront, hspace, hmark⟩
      | cons k items => exact ⟨c, _, by rw [writeItems, hfront]; rfl, hspace, hmark⟩
    obtain ⟨c, r, hfront, hspace, hmark⟩ := hitems
    cases fuel with
    | zero =>
      rw [hlength, hfront, List.length_cons] at hfuel
      omega
    | succ fuel =>
      have hread := @readItems?_write _ hplain hreads (List.cons_ne_nil _ _) fuel (by omega) rest
      rw [hfront, List.cons_append] at hread ⊢
      rw [readValue?_items hspace hmark, hread]
      rfl

/-- A field with its name, up to the mark after its value. -/
theorem readFields?_name {fuel : Nat} (name : String) {j : Json} {rest : List Char}
    (hread : readValue? fuel (write j ++ rest) = some (j, rest)) :
    readFields? (fuel + 1) (writeString name.toList ++ ':' :: write j ++ rest) =
      match skipSpace rest with
      | '}' :: rest => some ([(some name, j)], rest)
      | ',' :: r => do
        let (fields, rest) ← readFields? fuel r
        some ((some name, j) :: fields, rest)
      | _ => none := by
  have hstart : writeString name.toList ++ ':' :: write j ++ rest =
      '"' :: (name.toList.flatMap escape ++ '"' :: ':' :: (write j ++ rest)) := by
    simp [writeString]
  have hname : (join? (name.toList.map pieceOf)).map String.ofList = some name := by
    rw [join?_map_pieceOf, Option.map_some, String.ofList_toList]
  rw [hstart, readFields?, skipSpace_cons rfl]
  split
  · next r heq =>
    cases heq
    rw [pieces?_escape]
    simp only [Option.bind_eq_bind, Option.bind_some, hname]
    rw [skipSpace_cons rfl]
    split
    · next r heq =>
      cases heq
      rw [hread]
      rfl
    · next hnot => exact absurd rfl (hnot _)
  · next hnot => exact absurd rfl (hnot _)

/-- Fields read back up to their closing brace if each value does. -/
theorem readFields?_write {fields : List (String × Json)} (hreads : ∀ f ∈ fields, Reads f.2)
    (hne : fields ≠ []) {fuel : Nat} (hfuel : 2 * (writeFields fields).length ≤ fuel + 1)
    (rest : List Char) :
    readFields? (fuel + 1) (writeFields fields ++ '}' :: rest) =
      some (fields.map fun f => (some f.1, f.2), rest) := by
  have hlength : ∀ (name : String) (j : Json),
      2 ≤ (writeString name.toList ++ ':' :: write j).length ∧
      (write j).length ≤ (writeString name.toList ++ ':' :: write j).length := by
    intro name j
    simp only [writeString, List.length_append, List.length_cons]
    omega
  induction fields generalizing fuel with
  | nil => exact absurd rfl hne
  | cons f fields ih =>
    obtain ⟨name, j⟩ := f
    have hj : Reads j := hreads (name, j) List.mem_cons_self
    obtain ⟨hpos, hle⟩ := hlength name j
    cases fuel with
    | zero =>
      cases fields with
      | nil =>
        rw [writeFields] at hfuel
        omega
      | cons g fields =>
        rw [writeFields, List.length_append] at hfuel
        omega
    | succ fuel =>
      cases fields with
      | nil =>
        rw [writeFields] at hfuel ⊢
        have hstops : Stops ('}' :: rest) := fun c hc => by cases hc; exact .inr (.inr rfl)
        rw [readFields?_name name (hj fuel _ (by omega) hstops)]
        rfl
      | cons g fields =>
        rw [writeFields, List.length_append, List.length_cons] at hfuel
        rw [writeFields, List.append_assoc, List.cons_append]
        have hstops : Stops (',' :: (writeFields (g :: fields) ++ '}' :: rest)) := fun c hc => by
          cases hc
          exact .inl rfl
        have hrest := @ih (fun f hf => hreads f (List.mem_cons_of_mem _ hf))
          (List.cons_ne_nil _ _) fuel (by omega)
        rw [readFields?_name name (hj fuel _ (by omega) hstops)]
        show (readFields? (fuel + 1) (writeFields (g :: fields) ++ '}' :: rest) >>= _) = _
        rw [hrest]
        rfl

/-- Fields that all have a name are those of an object. -/
theorem object_some (cs : List Char) (fields : List (String × Json)) (rest : List Char) :
    object cs (fields.map fun f => (some f.1, f.2)) rest = .obj fields := by
  have hnamed : (fields.map fun f => ((some f.1 : Option String), f.2)).mapM
      (fun f => f.1.map fun name => (name, f.2)) = some fields := by
    induction fields with
    | nil => rfl
    | cons f fields ih =>
      rw [List.map_cons, List.mapM_cons, ih]
      rfl
  rw [object, hnamed]

theorem readValue?_fields (fuel : Nat) (r : List Char) :
    readValue? (fuel + 1) ('{' :: '"' :: r) =
      (readFields? fuel ('"' :: r)).map fun p => (object ('{' :: '"' :: r) p.1 p.2, p.2) := by
  show (readFields? fuel ('"' :: r) >>= _) = _
  cases readFields? fuel ('"' :: r) <;> rfl

theorem reads_obj {fields : List (String × Json)} (hreads : ∀ f ∈ fields, Reads f.2) :
    Reads (.obj fields) := by
  intro fuel rest hfuel _
  have hlength : (write (.obj fields)).length = (writeFields fields).length + 2 := by
    rw [write, List.length_append, List.length_cons]
    rfl
  show readValue? (fuel + 1) ('{' :: writeFields fields ++ ['}'] ++ rest) = _
  rw [List.append_assoc, List.cons_append, List.singleton_append]
  cases fields with
  | nil => rfl
  | cons f fields =>
    have hfront : ∃ r, writeFields (f :: fields) = '"' :: r := by
      cases fields with
      | nil => exact ⟨_, rfl⟩
      | cons g fields => exact ⟨_, rfl⟩
    obtain ⟨r, hfront⟩ := hfront
    cases fuel with
    | zero =>
      rw [hlength, hfront, List.length_cons] at hfuel
      omega
    | succ fuel =>
      have hread := @readFields?_write _ hreads (List.cons_ne_nil _ _) fuel (by omega) rest
      rw [hfront, List.cons_append] at hread ⊢
      rw [readValue?_fields, hread, Option.map_some, object_some]

/-- Every plain value reads back, by induction on the tree. -/
theorem reads_of_plain {j : Json} (h : Plain j) : Reads j := by
  induction h with
  | null => exact fun fuel rest _ _ => rfl
  | bool b => cases b <;> exact fun fuel rest _ _ => rfl
  | int i => exact reads_int i
  | str s => exact reads_str s
  | arr hplain ih => exact reads_arr hplain ih
  | obj hplain ih => exact reads_obj ih

/-- **What is printed reads back.** -/
theorem ofText?_text {j : Json} (h : Plain j) : ofText? j.text = some j := by
  have hread := reads_of_plain h (2 * (write j).length + 1) [] (by omega) fun c hc => nomatch hc
  rw [List.append_nil] at hread
  rw [ofText?, text, String.toList_ofList, read?, hread]
  rfl

end Turnstile.Json

import Turnstile.Json
import Turnstile.Text.Hex

/-!
# Identifiers

128-bit identifiers of users, servers, channels and roles. One is always written as 32
lowercase hexadecimal digits in five groups; it is read from that form, from the digits
alone, from the grouped form in braces, and from the grouped form after `urn:uuid:`.

    ofText? u.text = some u        (ofText?_text)
-/

namespace Turnstile

structure Uuid where
  value : BitVec 128
  deriving DecidableEq

namespace Uuid

/-! ## Writing -/

/-- The hexadecimal digit at place `i`, counted from the most significant. -/
def nibble (u : Uuid) (i : Nat) : Nat := u.value.toNat >>> (4 * (31 - i)) % 16

/-- The `len` digits from place `start` on. -/
def group (u : Uuid) (start len : Nat) : List Char :=
  (List.range len).map fun i => Text.Hex.digit (u.nibble (start + i))

def write (u : Uuid) : List Char :=
  u.group 0 8 ++ '-' :: u.group 8 4 ++ '-' :: u.group 12 4 ++ '-' :: u.group 16 4 ++
    '-' :: u.group 20 12

def text (u : Uuid) : String := String.ofList u.write

/-! ## Reading -/

/-- Groups of digits of the given sizes, each after a hyphen, to the end of the text. -/
def readGroups? : List Nat → Nat → List Char → Option Nat
  | [], acc, [] => some acc
  | k :: ks, acc, '-' :: cs => do
    let (acc, rest) ← Text.Hex.take? k acc cs
    readGroups? ks acc rest
  | _, _, _ => none

def readGrouped? (cs : List Char) : Option Nat := do
  let (acc, rest) ← Text.Hex.take? 8 0 cs
  readGroups? [4, 4, 4, 12] acc rest

def readPlain? (cs : List Char) : Option Nat := do
  let (n, rest) ← Text.Hex.take? 32 0 cs
  if rest.isEmpty then some n else none

def readBraced? : List Char → Option Nat
  | '{' :: r => if r.getLast? = some '}' then readGrouped? r.dropLast else none
  | _ => none

/-- The scheme may be in letters of either case. -/
def readUrn? (cs : List Char) : Option Nat :=
  if (cs.take 9).map Char.toLower = "urn:uuid:".toList then readGrouped? (cs.drop 9) else none

def read? (cs : List Char) : Option Uuid :=
  ((readGrouped? cs).or <| (readPlain? cs).or <| (readBraced? cs).or <| readUrn? cs).map
    fun n => ⟨BitVec.ofNat 128 n⟩

def ofText? (s : String) : Option Uuid := read? s.toList

/-! ## JSON -/

def toJson (u : Uuid) : Json := .str u.text

def ofJson? (j : Json) : Option Uuid := j.str?.bind ofText?

/-! ## Lemmas -/

open Text

variable (u : Uuid)

theorem nibble_lt (i : Nat) : u.nibble i < 16 := Nat.mod_lt _ (by decide)

theorem group_succ (start len : Nat) :
    u.group start (len + 1) = Hex.digit (u.nibble start) :: u.group (start + 1) len := by
  unfold group
  rw [List.range_succ_eq_map, List.map_cons, List.map_map]
  congr 1
  refine List.map_congr_left fun i _ => ?_
  simp only [Function.comp, Nat.succ_eq_add_one]
  congr 2
  omega

/-- One digit more. -/
theorem shiftRight_nibble {i : Nat} (hi : i < 32) :
    16 * (u.value.toNat >>> (4 * (32 - i))) + u.nibble i = u.value.toNat >>> (4 * (31 - i)) := by
  have hplace : 4 * (32 - i) = 4 * (31 - i) + 4 := by omega
  rw [nibble, hplace, Nat.shiftRight_add, Nat.shiftRight_eq_div_pow _ 4]
  omega

/-- A group reads back, after what was read before. -/
theorem take?_group (start len : Nat) (h : start + len ≤ 32) (rest : List Char) :
    Hex.take? len (u.value.toNat >>> (4 * (32 - start))) (u.group start len ++ rest) =
      some (u.value.toNat >>> (4 * (32 - (start + len))), rest) := by
  induction len generalizing start with
  | zero => rfl
  | succ len ih =>
    rw [group_succ, List.cons_append, Hex.take?, Hex.value?_digit _ (u.nibble_lt start)]
    show Hex.take? len _ _ = _
    rw [u.shiftRight_nibble (by omega), show 31 - start = 32 - (start + 1) by omega,
      ih (start + 1) (by omega), show start + 1 + len = start + (len + 1) by omega]

theorem readGroups?_cons (start len : Nat) (h : start + len ≤ 32) (ks : List Nat)
    (rest : List Char) :
    readGroups? (len :: ks) (u.value.toNat >>> (4 * (32 - start)))
        ('-' :: (u.group start len ++ rest)) =
      readGroups? ks (u.value.toNat >>> (4 * (32 - (start + len)))) rest := by
  rw [readGroups?, u.take?_group start len h]
  rfl

/-- What is written reads back. -/
theorem read?_write : read? u.write = some u := by
  have hfirst := u.take?_group 0 8 (by omega)
  rw [show u.value.toNat >>> (4 * (32 - 0)) = 0 from Nat.shiftRight_eq_zero _ _ u.value.isLt]
    at hfirst
  have hgrouped : readGrouped? u.write = some u.value.toNat := by
    unfold readGrouped? write
    simp only [List.append_assoc, List.cons_append]
    rw [hfirst]
    show readGroups? _ _ _ = _
    rw [u.readGroups?_cons 8 4 (by omega), u.readGroups?_cons 12 4 (by omega),
      u.readGroups?_cons 16 4 (by omega), ← List.append_nil (u.group 20 12),
      u.readGroups?_cons 20 12 (by omega)]
    rfl
  rw [read?, hgrouped, Option.some_or, Option.map_some, BitVec.ofNat_toNat, BitVec.setWidth_eq]

@[simp] theorem toList_text : u.text.toList = u.write := String.toList_ofList

theorem ofText?_text : ofText? u.text = some u := by
  rw [ofText?, toList_text, read?_write]

variable {u}

theorem write_inj {v : Uuid} (h : u.write = v.write) : u = v := by
  have hread := congrArg read? h
  rw [read?_write, read?_write] at hread
  exact Option.some.inj hread

theorem not_mem_write {c : Char} (hdigit : Hex.value? c = none) (hhyphen : c ≠ '-') :
    c ∉ u.write := by
  have hgroup : ∀ start len, c ∉ u.group start len := by
    intro start len hc
    obtain ⟨i, -, hi⟩ := List.mem_map.1 hc
    rw [← hi, Hex.value?_digit _ (u.nibble_lt _)] at hdigit
    cases hdigit
  simp [write, hgroup, hhyphen]

end Uuid

end Turnstile

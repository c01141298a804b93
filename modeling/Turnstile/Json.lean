/-!
# JSON values

A JSON text as a tree. Objects keep their fields in the order in which they were
written, with repetitions, so that a reader of records can refuse a repeated field.

Some texts are sound JSON and still name no value that this library works with: a number
with a fraction or an exponent, minus zero, a string with an unpaired surrogate, an
object with such a string as a key. These are `raw`: kept as they were written and
passed over where a record may hold fields that are not its own.
-/

namespace Turnstile

inductive Json where
  | null
  | bool (b : Bool)
  | int (i : Int)
  | str (s : String)
  | arr (items : List Json)
  | obj (fields : List (String × Json))
  | raw (written : String)

namespace Json

/-! ## Views -/

def bool? : Json → Option Bool
  | .bool b => some b
  | _ => none

def int? : Json → Option Int
  | .int i => some i
  | _ => none

def str? : Json → Option String
  | .str s => some s
  | _ => none

def items? : Json → Option (List Json)
  | .arr items => some items
  | _ => none

/-- The value of the first field of that name. -/
def field? (name : String) : Json → Option Json
  | .obj fields => fields.lookup name
  | _ => none

/-- A natural number below `bound`. -/
def natBelow? (bound : Nat) : Json → Option (Fin bound)
  | .int (.ofNat n) => if h : n < bound then some ⟨n, h⟩ else none
  | _ => none

def uint32? (j : Json) : Option UInt32 := (natBelow? UInt32.size j).map UInt32.ofFin

def uint64? (j : Json) : Option UInt64 := (natBelow? UInt64.size j).map UInt64.ofFin

def int32? : Json → Option Int32
  | .int i => if Int32.minValue.toInt ≤ i ∧ i ≤ Int32.maxValue.toInt then some (Int32.ofInt i) else none
  | _ => none

def int64? : Json → Option Int64
  | .int i => if Int64.minValue.toInt ≤ i ∧ i ≤ Int64.maxValue.toInt then some (Int64.ofInt i) else none
  | _ => none

/-! ## Records

A record has a fixed list of named fields, all required. It is written as an object and
may also be given as an array that holds exactly the fields, in their order. -/

/-- The value of a field that occurs once. -/
def once? (name : String) (fields : List (String × Json)) : Option Json :=
  match fields.filter (fun f => f.1 == name) with
  | [f] => some f.2
  | _ => none

/-- The values of the named fields, in the order of the names. Fields of other names are
passed over in an object; an array may hold nothing else. -/
def record? (names : List String) : Json → Option (List Json)
  | .obj fields => names.mapM fun name => once? name fields
  | .arr items => if items.length = names.length then some items else none
  | _ => none

/-- A value that may be missing. -/
def ofOption {α : Type} (f : α → Json) : Option α → Json
  | some a => f a
  | none => .null

def ofUInt32 (n : UInt32) : Json := .int n.toNat

def ofUInt64 (n : UInt64) : Json := .int n.toNat

def ofInt32 (n : Int32) : Json := .int n.toInt

def ofInt64 (n : Int64) : Json := .int n.toInt

end Json

end Turnstile

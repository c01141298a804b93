import Turnstile.Json
import Turnstile.Text.Decimal
import Turnstile.Text.Hex

/-!
# Reading JSON text

Strict JSON: no trailing comma, no leading zero, no control character in a string,
nothing but space around the value. Values nest to any depth.

A string is read in two steps. `pieces?` undoes the escapes one by one, and an escape by
four hexadecimal digits gives a UTF-16 code unit; `join?` then pairs surrogates, and fails
where one stands alone.

The recursion on values is bounded by a count of steps. No two steps in a row leave the
text as it was, so twice its length is enough.
-/

namespace Turnstile.Json

open Turnstile.Text

/-! ## Space and strings -/

def isSpace (c : Char) : Bool := c == ' ' || c == '\t' || c == '\n' || c == '\r'

def skipSpace (cs : List Char) : List Char := cs.dropWhile isSpace

/-- A part of a string: a character, or a UTF-16 code unit given by its number. -/
inductive Piece where
  | char (c : Char)
  | unit (n : Nat)

def shortEscape? : Char → Option Char
  | '"' => some '"'
  | '\\' => some '\\'
  | '/' => some '/'
  | 'b' => some (Char.ofNat 0x08)
  | 'f' => some (Char.ofNat 0x0C)
  | 'n' => some '\n'
  | 'r' => some '\r'
  | 't' => some '\t'
  | _ => none

/-- The parts of a string up to its closing quote, and the text after it. -/
def pieces? : List Char → Option (List Piece × List Char)
  | [] => none
  | '"' :: r => some ([], r)
  | '\\' :: 'u' :: a :: b :: c :: d :: r => do
    let (n, _) ← Hex.take? 4 0 [a, b, c, d]
    let (ps, rest) ← pieces? r
    some (.unit n :: ps, rest)
  | '\\' :: e :: r => do
    let c ← shortEscape? e
    let (ps, rest) ← pieces? r
    some (.char c :: ps, rest)
  | c :: r =>
    if c = '\\' ∨ c.toNat < 0x20 then none
    else do
      let (ps, rest) ← pieces? r
      some (.char c :: ps, rest)

def isHighSurrogate (n : Nat) : Bool := 0xD800 ≤ n && n < 0xDC00

def isLowSurrogate (n : Nat) : Bool := 0xDC00 ≤ n && n < 0xE000

/-- The characters of a string. A high surrogate has to be followed at once by a low one. -/
def join? : List Piece → Option (List Char)
  | [] => some []
  | .char c :: r => (join? r).map (c :: ·)
  | .unit h :: .unit l :: r =>
    if isHighSurrogate h then
      if isLowSurrogate l then
        (join? r).map (Char.ofNat (0x10000 + (h - 0xD800) * 0x400 + (l - 0xDC00)) :: ·)
      else none
    else if isLowSurrogate h then none
    else (join? (.unit l :: r)).map (Char.ofNat h :: ·)
  | .unit h :: r =>
    if isHighSurrogate h || isLowSurrogate h then none
    else (join? r).map (Char.ofNat h :: ·)

/-! ## Numbers -/

/-- The digits at the front of a text, and the rest. -/
def spanDigits (cs : List Char) : List Char × List Char :=
  (cs.takeWhile Char.isDigit, cs.dropWhile Char.isDigit)

/-- Passes over a fraction, if there is one. Fails if its digits are missing. -/
def skipFraction? : List Char → Option (Bool × List Char)
  | '.' :: r =>
    let (ds, rest) := spanDigits r
    if ds.isEmpty then none else some (true, rest)
  | cs => some (false, cs)

def skipSign : List Char → List Char
  | '+' :: r => r
  | '-' :: r => r
  | cs => cs

/-- Passes over an exponent, if there is one. Fails if its digits are missing. -/
def skipExponent? : List Char → Option (Bool × List Char)
  | e :: r =>
    if e = 'e' ∨ e = 'E' then
      let (ds, rest) := spanDigits (skipSign r)
      if ds.isEmpty then none else some (true, rest)
    else some (false, e :: r)
  | [] => some (false, [])

/-- The front of `cs` that was passed over to reach its end part `rest`. -/
def written (cs rest : List Char) : String := String.ofList (cs.take (cs.length - rest.length))

/-- A number. It is an integer if it has neither fraction nor exponent and is not minus
zero. -/
def number? (cs : List Char) : Option (Json × List Char) := do
  let (negative, r) := match cs with
    | '-' :: r => (true, r)
    | _ => (false, cs)
  let (ds, r) := spanDigits r
  if ds.isEmpty ∨ (ds.head? = some '0' ∧ 1 < ds.length) then none
  else
    let (fraction, r) ← skipFraction? r
    let (exponent, r) ← skipExponent? r
    let n := Decimal.value ds
    if fraction || exponent || (negative && n == 0) then some (.raw (written cs r), r)
    else if negative then some (.int (-n), r)
    else some (.int n, r)

/-! ## Values -/

/-- A string, after its opening quote. `cs` is the text from that quote on. -/
def string? (cs r : List Char) : Option (Json × List Char) := do
  let (ps, rest) ← pieces? r
  match join? ps with
  | some s => some (.str (String.ofList s), rest)
  | none => some (.raw (written cs rest), rest)

/-- The object of these fields, unless a key has no text. `cs` is the text from the
object's opening brace on. -/
def object (cs : List Char) (fields : List (Option String × Json)) (rest : List Char) : Json :=
  match fields.mapM (fun f => f.1.map fun name => (name, f.2)) with
  | some named => .obj named
  | none => .raw (written cs rest)

mutual

/-- A value at the front of a text, and the text after it. -/
def readValue? : Nat → List Char → Option (Json × List Char)
  | 0, _ => none
  | fuel + 1, cs =>
    match skipSpace cs with
    | 'n' :: 'u' :: 'l' :: 'l' :: r => some (.null, r)
    | 't' :: 'r' :: 'u' :: 'e' :: r => some (.bool true, r)
    | 'f' :: 'a' :: 'l' :: 's' :: 'e' :: r => some (.bool false, r)
    | '"' :: r => string? ('"' :: r) r
    | '[' :: r =>
      match skipSpace r with
      | ']' :: rest => some (.arr [], rest)
      | r => do
        let (items, rest) ← readItems? fuel r
        some (.arr items, rest)
    | '{' :: r =>
      match skipSpace r with
      | '}' :: rest => some (.obj [], rest)
      | s => do
        let (fields, rest) ← readFields? fuel s
        some (object ('{' :: r) fields rest, rest)
    | cs => number? cs

/-- One or more items and the closing bracket. -/
def readItems? : Nat → List Char → Option (List Json × List Char)
  | 0, _ => none
  | fuel + 1, cs => do
    let (j, r) ← readValue? fuel cs
    match skipSpace r with
    | ']' :: rest => some ([j], rest)
    | ',' :: r => do
      let (items, rest) ← readItems? fuel r
      some (j :: items, rest)
    | _ => none

/-- One or more fields and the closing brace. -/
def readFields? : Nat → List Char → Option (List (Option String × Json) × List Char)
  | 0, _ => none
  | fuel + 1, cs =>
    match skipSpace cs with
    | '"' :: r => do
      let (ps, r) ← pieces? r
      let name := (join? ps).map String.ofList
      match skipSpace r with
      | ':' :: r => do
        let (j, r) ← readValue? fuel r
        match skipSpace r with
        | '}' :: rest => some ([(name, j)], rest)
        | ',' :: r => do
          let (fields, rest) ← readFields? fuel r
          some ((name, j) :: fields, rest)
        | _ => none
      | _ => none
    | _ => none

end

/-- The value that a whole text stands for. -/
def read? (cs : List Char) : Option Json := do
  let (j, rest) ← readValue? (2 * cs.length + 2) cs
  if (skipSpace rest).isEmpty then some j else none

def ofText? (s : String) : Option Json := read? s.toList

end Turnstile.Json

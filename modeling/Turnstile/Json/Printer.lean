import Turnstile.Json
import Turnstile.Text.Decimal
import Turnstile.Text.Hex

/-!
# Compact JSON text

No space between tokens, fields in the order of the tree. In strings only the quote, the
backslash and the controls below U+0020 are escaped, five of them by a letter and the
others by four hexadecimal digits.
-/

namespace Turnstile.Json

open Turnstile.Text

/-- A character's written form inside a string. -/
def escape (c : Char) : List Char :=
  if c = '"' then ['\\', '"']
  else if c = '\\' then ['\\', '\\']
  else if c.toNat = 0x08 then ['\\', 'b']
  else if c.toNat = 0x09 then ['\\', 't']
  else if c.toNat = 0x0A then ['\\', 'n']
  else if c.toNat = 0x0C then ['\\', 'f']
  else if c.toNat = 0x0D then ['\\', 'r']
  else if c.toNat < 0x20 then '\\' :: 'u' :: Hex.padded 4 c.toNat
  else [c]

def writeString (cs : List Char) : List Char := '"' :: cs.flatMap escape ++ ['"']

mutual

def write : Json → List Char
  | .null => ['n', 'u', 'l', 'l']
  | .bool true => ['t', 'r', 'u', 'e']
  | .bool false => ['f', 'a', 'l', 's', 'e']
  | .int i => Decimal.signedDigits i
  | .str s => writeString s.toList
  | .arr items => '[' :: writeItems items ++ [']']
  | .obj fields => '{' :: writeFields fields ++ ['}']
  | .raw written => written.toList

/-- Items with a comma between two of them. -/
def writeItems : List Json → List Char
  | [] => []
  | [j] => write j
  | j :: k :: r => write j ++ ',' :: writeItems (k :: r)

/-- Fields with a comma between two of them. -/
def writeFields : List (String × Json) → List Char
  | [] => []
  | [(name, j)] => writeString name.toList ++ ':' :: write j
  | (name, j) :: g :: r =>
    writeString name.toList ++ ':' :: write j ++ ',' :: writeFields (g :: r)

end

/-- The compact text of a value. -/
def text (j : Json) : String := String.ofList (write j)

end Turnstile.Json

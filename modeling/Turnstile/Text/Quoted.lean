import Turnstile.Text.Hex
import Turnstile.Text.Visible

/-!
# Quoted text

Text set between double quotes for a reader of diagnostics. A quote, a backslash and the
four common controls have a short escape; any other character that would not be seen is
written as its code point in braces; all else stands for itself, an apostrophe included.
-/

namespace Turnstile.Text.Quoted

/-- A character's written form between the quotes. -/
def escape (c : Char) : List Char :=
  if c = '"' then ['\\', '"']
  else if c = '\\' then ['\\', '\\']
  else if c.toNat = 0 then ['\\', '0']
  else if c = '\t' then ['\\', 't']
  else if c = '\n' then ['\\', 'n']
  else if c = '\r' then ['\\', 'r']
  else if isVisible c then [c]
  else ['\\', 'u', '{'] ++ Hex.digits c.toNat ++ ['}']

def write (cs : List Char) : List Char := '"' :: cs.flatMap escape ++ ['"']

end Turnstile.Text.Quoted

namespace Turnstile.Text

def quoted (s : String) : String := String.ofList (Quoted.write s.toList)

end Turnstile.Text

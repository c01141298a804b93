import Turnstile.Environment
import Turnstile.Text.Blank

/-!
# Variables from a file

A file with an assignment per line, which gives variables that are not set a value. It is
read up to its first faulty line, so of two assignments to one variable the first counts,
and nothing after a fault.

An assignment is `NAME=value`, with `export` in front if one likes and blanks around the
sign. A value ends at a space or tab, after which only a comment may stand; a part of it
between quotes of either kind may hold anything, line ends included.

Lines are therefore put together first: a line is continued by the next one while a quote is
open at its end. The search for open quotes ends at a `#` that follows a blank, unless the
blank itself follows a blank.
-/

namespace Turnstile.DotEnv

open Turnstile.Text

/-! ## Lines -/

/-- What the search for open quotes has just seen. -/
inductive Scan where
  | plain
  | blank
  | singleQuoted
  | doubleQuoted
  /-- A comment, which ends the search. -/
  | comment
  deriving DecidableEq

/-- The step over one character. -/
def Scan.step (s : Scan) (c : Char) : Scan :=
  match s with
  | .plain =>
    if isBlank c && c != '\n' && c != '\r' then .blank
    else if c = '"' then .doubleQuoted
    else if c = '\'' then .singleQuoted
    else .plain
  | .blank =>
    if c = '#' then .comment
    else if c = '"' then .doubleQuoted
    else if c = '\'' then .singleQuoted
    else .plain
  | .singleQuoted => if c = '\'' then .plain else .singleQuoted
  | .doubleQuoted => if c = '"' then .plain else .doubleQuoted
  | .comment => .comment

/-- The end of a physical line: the scan there, and the line up to a comment, if one is met. -/
def Scan.line : Scan → List Char → Scan × List Char
  | s, [] => (s, [])
  | s, c :: r =>
    match s.step c with
    | .comment => (.comment, [])
    | s' =>
      let (e, kept) := Scan.line s' r
      (e, c :: kept)

/-- The physical lines of a text, each with its line end. -/
def physicalLines : List Char → List (List Char)
  | [] => []
  | c :: r =>
    if c = '\n' then [c] :: physicalLines r
    else
      match physicalLines r with
      | [] => [[c]]
      | l :: ls => (c :: l) :: ls

/-- A line without its line end. -/
def chomp (cs : List Char) : List Char :=
  match cs.reverse with
  | '\n' :: '\r' :: r => r.reverse
  | '\n' :: r => r.reverse
  | _ => cs

/-- The lines of a file, put together where a quote is open. `none` stands for a fault: the
file ends within a quote, or right after a blank. What is pending is the part of a line
that is still to be continued, with the scan at its end. -/
def joinLines : (pending : List Char) → Scan → List (List Char) → List (Option (List Char))
  | _, s, [] => if s = .plain then [] else [none]
  | pending, s, l :: ls =>
    let whole := pending ++ l
    if (trimStart whole).head? = some '#' then some [] :: joinLines [] .plain ls
    else
      let (e, kept) := s.line l
      match e with
      | .plain => some (chomp whole) :: joinLines [] .plain ls
      | .comment => some (pending ++ kept) :: joinLines [] .plain ls
      | e => joinLines whole e ls

/-! ## Assignments -/

def isNameStart (c : Char) : Bool := c.isAlpha || c == '_'

def isNamePart (c : Char) : Bool := c.isAlphanum || c == '_' || c == '.'

/-- A variable's name, and what follows it and any blanks. -/
def readName? : List Char → Option (List Char × List Char)
  | [] => none
  | c :: r =>
    if isNameStart c then
      some (c :: r.takeWhile isNamePart, trimStart (r.dropWhile isNamePart))
    else none

def readEqual? : List Char → Option (List Char)
  | '=' :: r => some r
  | _ => none

/-- Where in a value the reader is. -/
inductive Quote where
  | none
  | single
  | double
  /-- After the blank that ends the value. -/
  | ended

/-- A value up to the end of its line. -/
def readValue? : Quote → List Char → Option (List Char)
  | .none, [] => some []
  | .ended, [] => some []
  | _, [] => Option.none
  | .ended, c :: r =>
    if c = ' ' ∨ c = '\t' then readValue? .ended r else if c = '#' then some [] else Option.none
  | .single, c :: r =>
    if c = '\'' then readValue? .none r else (readValue? .single r).map (c :: ·)
  | .double, c :: r =>
    if c = '"' then readValue? .none r else (readValue? .double r).map (c :: ·)
  | .none, c :: r =>
    if c = '\'' then readValue? .single r
    else if c = '"' then readValue? .double r
    else if c = ' ' ∨ c = '\t' then readValue? .ended r
    else (readValue? .none r).map (c :: ·)

/-- What a line holds. -/
inductive Line where
  | nothing
  | assignment (name value : String)

/-- The assignment after a name and the blanks behind it. -/
def readAssignment? (name rest : List Char) : Option Line := do
  let value := trimStart (← readEqual? rest)
  let value ← if value.head? = some '#' then some [] else readValue? .none value
  some (.assignment (String.ofList name) (String.ofList value))

/-- A line. The word `export` is a name if an equals sign follows it. -/
def readLine? (line : List Char) : Option Line := do
  let cs := trimStart (trimEnd line)
  if cs.isEmpty || cs.head? == some '#' then some .nothing
  else
    let (name, rest) ← readName? cs
    if name = "export".toList ∧ (readEqual? rest).isNone then
      let (name, rest) ← readName? rest
      readAssignment? name rest
    else readAssignment? name rest

/-! ## Loading -/

/-- Sets the variables of the lines up to the first fault. -/
def loadLines (e : Environment) : List (Option (List Char)) → Environment
  | [] => e
  | line :: r =>
    match line.bind readLine? with
    | none => e
    | some .nothing => loadLines e r
    | some (.assignment name value) => loadLines (e.setDefault name value) r

/-- The environment after a file was loaded into it. A byte order mark in front is no part
of the first line. -/
def load (file : String) (e : Environment) : Environment :=
  let cs := match file.toList with
    | c :: r => if c.toNat = 0xFEFF then r else c :: r
    | [] => []
  loadLines e (joinLines [] .plain (physicalLines cs))

end Turnstile.DotEnv

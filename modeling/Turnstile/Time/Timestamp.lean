import Turnstile.Time.Duration

/-!
# Points in time

A point in time is a count of seconds since the start of 1970, negative before it, and
nanoseconds after that second. A leap second, which only the last second of a minute may
have, has no number of its own: it is the second billion of nanoseconds after the second
before it. The calendar reaches from the year -262143 to 262142.

A point is written as RFC 3339 prescribes, in UTC, with no places or with three, six or
nine as needed. Years outside 0..9999 carry a sign.
-/

namespace Turnstile

structure Timestamp where
  secs : Int
  nanos : Nat
  nanos_lt : nanos < 1000000000 ∨ nanos < 2000000000 ∧ secs % 60 = 59
  deriving DecidableEq

namespace Timestamp

/-! ## Range -/

/-- The first second of the year -262143. -/
def firstSecond : Int := -8334601228800

/-- The last second of the year 262142. -/
def lastSecond : Int := 8210266876799

/-- The point in time, if there is one and the calendar reaches it. -/
def of? (secs : Int) (nanos : Nat) : Option Timestamp :=
  if h : nanos < 1000000000 ∨ nanos < 2000000000 ∧ secs % 60 = 59 then
    if firstSecond ≤ secs ∧ secs ≤ lastSecond then some ⟨secs, nanos, h⟩ else none
  else none

/-- The longest span that may be added: 2^63 - 1 milliseconds. -/
def longestSpan : Nat := 9223372036854775807 * 1000000

/-- The point in time a span later, if the span and the result are in range. A span that
leads out of a leap second is counted from the second before it. -/
def add? (t : Timestamp) (d : Duration) : Option Timestamp :=
  if longestSpan < d.toNanos then none
  else if 1000000000 ≤ t.nanos ∧ t.nanos + d.toNanos < 2000000000 then
    of? t.secs (t.nanos + d.toNanos)
  else
    let n := t.nanos % 1000000000 + d.nanos.val
    of? (t.secs + d.secs.toNat + (n / 1000000000 : Nat)) (n % 1000000000)

/-! ## Calendar -/

structure Date where
  year : Int
  month : Nat
  day : Nat

/-- The proleptic Gregorian date of a day, counted from the start of 1970. Years are taken
to begin in March, so that a leap day is the last of its year; 400 of them have 146097
days. -/
def dateOfDay (day : Int) : Date :=
  let shifted := day + 719468
  let era := shifted / 146097
  let dayOfEra := (shifted % 146097).toNat
  let yearOfEra := (dayOfEra - dayOfEra / 1460 + dayOfEra / 36524 - dayOfEra / 146096) / 365
  let dayOfYear := dayOfEra - (365 * yearOfEra + yearOfEra / 4 - yearOfEra / 100)
  let monthFromMarch := (5 * dayOfYear + 2) / 153
  let month := if monthFromMarch < 10 then monthFromMarch + 3 else monthFromMarch - 9
  let year := (yearOfEra : Int) + era * 400
  ⟨if month ≤ 2 then year + 1 else year, month, dayOfYear - (153 * monthFromMarch + 2) / 5 + 1⟩

/-! ## Text -/

open Turnstile.Text

def writeYear (y : Int) : List Char :=
  if 0 ≤ y ∧ y ≤ 9999 then Decimal.padded 4 y.toNat
  else (if y < 0 then '-' else '+') :: Decimal.padded 4 y.natAbs

/-- The shortest of no places and three, six or nine that shows all of `n / 10 ^ 9`. -/
def writeFraction (n : Nat) : List Char :=
  if n = 0 then []
  else if n % 1000000 = 0 then '.' :: Decimal.padded 3 (n / 1000000)
  else if n % 1000 = 0 then '.' :: Decimal.padded 6 (n / 1000)
  else '.' :: Decimal.padded 9 n

def write (t : Timestamp) : List Char :=
  let date := dateOfDay (t.secs / 86400)
  let second := (t.secs % 86400).toNat
  writeYear date.year ++ '-' :: Decimal.padded 2 date.month ++ '-' :: Decimal.padded 2 date.day ++
    'T' :: Decimal.padded 2 (second / 3600) ++ ':' :: Decimal.padded 2 (second / 60 % 60) ++
    ':' :: Decimal.padded 2 (second % 60 + t.nanos / 1000000000) ++
    writeFraction (t.nanos % 1000000000) ++ ['Z']

def text (t : Timestamp) : String := String.ofList t.write

end Timestamp

end Turnstile

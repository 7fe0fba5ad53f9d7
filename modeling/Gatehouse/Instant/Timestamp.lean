import Gatehouse.Instant
import Gatehouse.Instant.Calendar
import Gatehouse.Text.Blank
import Gatehouse.Text.Decimal

/-!
# Timestamps

Instants as text after RFC 3339.  The writer gives UTC with `Z` and the fewest
of 0, 3, 6 or 9 fraction digits.  The reader is lenient: numbers may be short,
blanks may stand before numbers and separators, and the offset may be spelled
`UTC`, `Z` or as hours and minutes with any colons or blanks between them.
-/

set_option autoImplicit false

namespace Gatehouse.Timestamp

open Gatehouse.Text (trimStart isBlank)

/-! ## Writing -/

/-- Years of four digits stand alone; all others carry a sign. -/
def yearText (year : Int) : String :=
  if 0 ≤ year ∧ year ≤ 9999 then Decimal.padded 4 year.toNat
  else if 0 ≤ year then "+" ++ Decimal.padded 4 year.toNat
  else "-" ++ Decimal.padded 4 (-year).toNat

def fractionText (nanos : Nat) : String :=
  if nanos = 0 then ""
  else if nanos % 1000000 = 0 then "." ++ Decimal.padded 3 (nanos / 1000000)
  else if nanos % 1000 = 0 then "." ++ Decimal.padded 6 (nanos / 1000)
  else "." ++ Decimal.padded 9 nanos

/-- The instant's text; within a leap second the seconds read 60. -/
def text (instant : Instant) : String :=
  let date := Calendar.Date.ofDays (Int.fdiv instant.seconds 86400)
  let ofDay := (Int.fmod instant.seconds 86400).toNat
  let second := ofDay % 60 + instant.nanos / 1000000000
  yearText date.year ++ "-" ++ Decimal.padded 2 date.month ++ "-" ++ Decimal.padded 2 date.day ++
    "T" ++ Decimal.padded 2 (ofDay / 3600) ++ ":" ++ Decimal.padded 2 (ofDay / 60 % 60) ++ ":" ++
    Decimal.padded 2 second ++ fractionText (instant.nanos % 1000000000) ++ "Z"

/-! ## Reading -/

abbrev Reader (α : Type) := List Char → Option (α × List Char)

/-- Up to `most` digits, and at least one. -/
def digits (most : Nat) : Reader Nat := fun chars =>
  let run := (chars.take most).takeWhile fun char => (Decimal.digit? char).isSome
  (Decimal.natural? run).map fun value => (value, chars.drop run.length)

/-- A number of one or two digits after any blanks, inside its range. -/
def field (low high : Nat) : Reader Nat := fun chars => do
  let (value, rest) ← digits 2 (trimStart chars)
  if low ≤ value ∧ value ≤ high then some (value, rest) else none

def separator (mark : Char) : Reader Unit := fun chars =>
  match trimStart chars with
  | char :: rest => if char = mark then some ((), rest) else none
  | [] => none

/-- A year: up to four digits, or any number of them after a sign. -/
def year : Reader Int := fun chars =>
  match trimStart chars with
  | '-' :: rest => (digits rest.length rest).map fun (value, rest) => (-(value : Int), rest)
  | '+' :: rest => (digits rest.length rest).map fun (value, rest) => ((value : Int), rest)
  | chars => (digits 4 chars).map fun (value, rest) => ((value : Int), rest)

/-- A decimal fraction in nanoseconds; digits after the ninth are passed over. -/
def fraction : Reader Nat := fun chars =>
  match chars with
  | '.' :: rest => do
    let run := (rest.take 9).takeWhile fun char => (Decimal.digit? char).isSome
    let value ← Decimal.natural? run
    some (value * Nat.pow 10 (9 - run.length),
      (rest.drop run.length).dropWhile fun char => (Decimal.digit? char).isSome)
  | _ => some (0, chars)

def twoDigits : Reader Nat := fun chars =>
  match chars with
  | tens :: ones :: rest => do
    let tens ← Decimal.digit? tens
    let ones ← Decimal.digit? ones
    some (tens * 10 + ones, rest)
  | _ => none

/-- Hours and minutes of an offset, in seconds. -/
def offsetAmount : Reader Nat := fun chars => do
  let (hours, rest) ← twoDigits chars
  let (minutes, rest) ← twoDigits (rest.dropWhile fun char => char == ':' || isBlank char)
  if minutes < 60 then some (hours * 3600 + minutes * 60, rest) else none

/-- The offset from UTC in seconds. -/
def offset : Reader Int := fun chars =>
  if (chars.take 3).map Char.toUpper = ['U', 'T', 'C'] then some (0, chars.drop 3)
  else
    match chars with
    | 'Z' :: rest | 'z' :: rest => some (0, rest)
    | '+' :: rest => (offsetAmount rest).map fun (seconds, rest) => ((seconds : Int), rest)
    | '-' :: rest | '\u2212' :: rest =>
      (offsetAmount rest).map fun (seconds, rest) => (-(seconds : Int), rest)
    | _ => none

def divider : Reader Unit := fun chars =>
  match chars with
  | 'T' :: rest | 't' :: rest | ' ' :: rest => some ((), rest)
  | _ => none

def ofChars? (chars : List Char) : Option Instant := do
  let (year, chars) ← year chars
  let (_, chars) ← separator '-' chars
  let (month, chars) ← field 1 12 chars
  let (_, chars) ← separator '-' chars
  let (day, chars) ← field 1 31 chars
  let (_, chars) ← divider chars
  let (hour, chars) ← field 0 23 chars
  let (_, chars) ← separator ':' chars
  let (minute, chars) ← field 0 59 chars
  let (_, chars) ← separator ':' chars
  let (second, chars) ← field 0 60 chars
  let (nanos, chars) ← fraction chars
  let (shift, chars) ← offset (trimStart chars)
  let date : Calendar.Date := ⟨year, month, day⟩
  if (trimStart chars).isEmpty ∧ date.valid = true ∧ shift.natAbs < 86400 then
    let (second, nanos) := if second = 60 then (59, nanos + 1000000000) else (second, nanos)
    let clock ← Instant.of?
      (date.toDays * 86400 + (hour * 3600 + minute * 60 + second : Nat)) nanos
    Instant.of? (clock.seconds - shift) nanos
  else none

def ofText? (text : String) : Option Instant :=
  ofChars? text.toList

end Gatehouse.Timestamp

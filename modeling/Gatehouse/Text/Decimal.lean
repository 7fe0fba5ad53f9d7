/-!
# Signed decimal numerals

A numeral is an optional sign and one or more ASCII digits, of any length and
with any number of leading zeros.  `value?` reads one whole list of characters.
-/

set_option autoImplicit false

namespace Gatehouse.Decimal

def digit? (char : Char) : Option Nat :=
  if '0' ≤ char ∧ char ≤ '9' then some (char.toNat - 48) else none

/-- Reads digits onto a value already read; anything else than a digit fails. -/
def extend? (sofar : Nat) : List Char → Option Nat
  | [] => some sofar
  | char :: rest =>
    match digit? char with
    | some digit => extend? (sofar * 10 + digit) rest
    | none => none

def natural? : List Char → Option Nat
  | [] => none
  | chars => extend? 0 chars

def value? : List Char → Option Int
  | '+' :: digits => (natural? digits).map fun value => (value : Int)
  | '-' :: digits => (natural? digits).map fun value => -(value : Int)
  | digits => (natural? digits).map fun value => (value : Int)

/-! ## Powers of ten -/

/-- Reads the digits of a power of ten; when it has come to `2 ^ 16` those that follow are passed
over. -/
def extendPower? (sofar : Nat) : List Char → Option Nat
  | [] => some sofar
  | char :: rest =>
    match digit? char with
    | some digit => extendPower? (if sofar < 65536 then sofar * 10 + digit else sofar) rest
    | none => none

def naturalPower? : List Char → Option Nat
  | [] => none
  | chars => extendPower? 0 chars

def power? : List Char → Option Int
  | '+' :: digits => (naturalPower? digits).map Int.ofNat
  | '-' :: digits => (naturalPower? digits).map fun power => -Int.ofNat power
  | digits => (naturalPower? digits).map Int.ofNat

/-! ## Bounds -/

def minInt64 : Int := -9223372036854775808

def maxInt64 : Int := 9223372036854775807

def endUInt64 : Int := 18446744073709551616

/-- The numeral's value, if it fits a signed 64-bit number. -/
def int64? (chars : List Char) : Option Int :=
  (value? chars).filter fun value => minInt64 ≤ value && value ≤ maxInt64

/-- A number padded with zeros in front to at least `width` digits. -/
def padded (width value : Nat) : String :=
  let digits := Nat.repr value
  String.ofList (List.replicate (width - digits.length) '0') ++ digits

end Gatehouse.Decimal

import Gatehouse.Text.Decimal

/-!
# Doubles and decimals

Which double a decimal is read as, and which decimal a double is written as.
Without their signs doubles are in the order of their bit patterns, and each of
them is a multiple of the least one, `2 ^ -1074`; so a decimal is read by looking
for the patterns around it.  A double is written with the fewest digits that are
read as it.
-/

set_option autoImplicit false

namespace Gatehouse.Shortest

/-! ## Patterns without a sign -/

/-- The pattern of infinity; the ones below are finite. -/
def infinityBits : Nat := 2047 * Nat.pow 2 52

/-- How often a double contains the least one. -/
def size (bits : Nat) : Nat :=
  let exponent := bits / Nat.pow 2 52 - 1
  (bits - exponent * Nat.pow 2 52) * Nat.pow 2 exponent

/-- The last pattern of no more than a size. -/
def floorBits (size : Nat) : Nat :=
  let exponent := size.log2 - 52
  exponent * Nat.pow 2 52 + size / Nat.pow 2 exponent

/-- The pattern whose size is nearest to a fraction, an even one if two are as near. -/
def nearestBits (top bottom : Nat) : Nat :=
  let below := floorBits (top / bottom)
  let middle := (size below + size (below + 1)) * bottom
  if 2 * top < middle then below
  else if middle < 2 * top then below + 1
  else below + below % 2

/-! ## Reading -/

/-- The pattern of the double nearest to `significand · 10 ^ scale`.  A power of ten is worth more
than three of two, which shows of the greatest and the least numbers what they are read as. -/
def scaledBits (significand : Nat) (scale : Int) : Nat :=
  let power := (significand.log2 : Int) + 3 * scale
  if significand = 0 then 0
  else if 0 ≤ scale ∧ 1024 ≤ power then infinityBits
  else if scale < 0 ∧ power < -1075 then 0
  else
    let top := significand * Nat.pow 10 scale.toNat * Nat.pow 2 1074
    min infinityBits (nearestBits top (Nat.pow 10 (-scale).toNat))

/-- The double nearest to `significand · 10 ^ scale`, with a sign. -/
def ofScaled (negative : Bool) (significand : Nat) (scale : Int) : Float :=
  let sign := if negative then Nat.pow 2 63 else 0
  Float.ofBits (UInt64.ofNat (sign + scaledBits significand scale))

/-! ## Shortest decimals -/

/-- A decimal `digits · 10 ^ scale`. -/
structure Digits where
  digits : Nat
  scale : Int
  deriving DecidableEq, Repr

/-- The decimal digits before the point of a double of a size, counted below zero for values below
one. -/
def magnitude (size : Nat) : Int :=
  ((Nat.toDigits 10 (size * Nat.pow 10 400 / Nat.pow 2 1074)).length : Int) - 400

/-- Of two decimals that are as near to a double, the one that is taken. -/
inductive Tie
  | upper
  | even
  deriving DecidableEq, Repr

def Tie.lowers (digits : Nat) : Tie → Bool
  | .upper => false
  | .even => digits % 2 == 0

/-- The decimal of so many digits that is nearest to a double, if one is read as it. -/
def ofCount (tie : Tie) (bits count : Nat) : Option Digits :=
  let scale := magnitude (size bits) - count
  let top := size bits * Nat.pow 10 (-scale).toNat
  let bottom := Nat.pow 2 1074 * Nat.pow 10 scale.toNat
  let lower : Digits := ⟨top / bottom, scale⟩
  let upper : Digits := ⟨top / bottom + 1, scale⟩
  let reads := fun decimal : Digits => scaledBits decimal.digits decimal.scale == bits
  let rest := top % bottom
  let lowers := decide (2 * rest < bottom) || (2 * rest == bottom && tie.lowers lower.digits)
  if reads lower && (lowers || !reads upper) then some lower
  else if reads upper then some upper
  else none

def Digits.trimmed : Nat → Digits → Digits
  | 0, decimal => decimal
  | fuel + 1, decimal =>
    if decimal.digits != 0 && decimal.digits % 10 == 0 then
      Digits.trimmed fuel ⟨decimal.digits / 10, decimal.scale + 1⟩
    else decimal

/-- Seventeen digits are enough for any double. -/
def ofPattern (tie : Tie) (bits : Nat) : Digits :=
  let found := (List.range 17).findSome? fun index => ofCount tie bits (index + 1)
  (found.getD ⟨0, 0⟩).trimmed 17

/-! ## Writing -/

/-- Writes a decimal without an exponent. -/
def Digits.positional (decimal : Digits) : String :=
  let text := Nat.repr decimal.digits
  if decimal.scale ≥ 0 then text ++ String.ofList (List.replicate decimal.scale.toNat '0')
  else
    let places := (-decimal.scale).toNat
    if places < text.length then
      String.ofList (text.toList.take (text.length - places)) ++ "." ++
        String.ofList (text.toList.drop (text.length - places))
    else "0." ++ String.ofList (List.replicate (places - text.length) '0') ++ text

/-- Writes a decimal with a point, in scientific notation from `10 ^ 16` on and below
`10 ^ -5`. -/
def Digits.pointed (decimal : Digits) : String :=
  let text := Nat.repr decimal.digits
  let before := (text.length : Int) + decimal.scale
  if decimal.scale ≥ 0 ∧ before ≤ 16 then decimal.positional ++ ".0"
  else if -5 < before ∧ before ≤ 16 then decimal.positional
  else
    let power := toString (before - 1)
    if text.length = 1 then text ++ "e" ++ power
    else
      String.ofList (text.toList.take 1) ++ "." ++ String.ofList (text.toList.drop 1) ++ "e" ++
        power

/-- The pattern of a double without its sign, and the sign as it is written. -/
def unsigned (value : Float) : String × Nat :=
  let bits := value.toBits.toNat
  (if bits / Nat.pow 2 63 = 1 then "-" else "", bits % Nat.pow 2 63)

/-- A double without an exponent and without a point where it is whole. -/
def plainText (value : Float) : String :=
  let (sign, bits) := unsigned value
  if infinityBits < bits then "NaN"
  else if bits = infinityBits then sign ++ "inf"
  else if bits = 0 then sign ++ "0"
  else sign ++ (ofPattern .upper bits).positional

/-- A finite double as a JSON number; there is none for the others. -/
def jsonText (value : Float) : String :=
  let (sign, bits) := unsigned value
  if infinityBits ≤ bits then "null"
  else if bits = 0 then sign ++ "0.0"
  else sign ++ (ofPattern .even bits).pointed

end Gatehouse.Shortest

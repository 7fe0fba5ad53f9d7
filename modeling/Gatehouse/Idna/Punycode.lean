/-!
# Punycode

Texts of any characters as texts of letters, digits and hyphens: the basic
characters first, then the others as a chain of differences in digits of
variable weight.
-/

set_option autoImplicit false

namespace Gatehouse.Idna.Punycode

def isBasic (char : Char) : Bool :=
  char.toNat < 0x80

def digit (value : Nat) : Char :=
  if value < 26 then Char.ofNat (97 + value) else Char.ofNat (22 + value)

/-- The value of a digit, in either case. -/
def digitValue? (char : Char) : Option Nat :=
  let code := char.toNat
  if 97 ≤ code ∧ code ≤ 122 then some (code - 97)
  else if 65 ≤ code ∧ code ≤ 90 then some (code - 65)
  else if 48 ≤ code ∧ code ≤ 57 then some (code - 22)
  else none

/-- The digit value from which on a number goes on, at a position counted in steps of
thirty-six. -/
def threshold (bias position : Nat) : Nat :=
  if position ≤ bias then 1
  else if position ≥ bias + 26 then 26
  else position - bias

theorem threshold_pos (bias position : Nat) : 1 ≤ threshold bias position := by
  unfold threshold
  split
  · omega
  · split <;> omega

/-- Divides a difference until it is small, counting the steps. -/
def shrink (steps difference : Nat) : Nat × Nat :=
  if difference > 455 then shrink (steps + 36) (difference / 35) else (steps, difference)
termination_by difference
decreasing_by omega

/-- The bias after a difference: `count` characters are there, and this was the first or not. -/
def adapt (difference count : Nat) (first : Bool) : Nat :=
  let scaled := if first then difference / 700 else difference / 2
  let (steps, small) := shrink 0 (scaled + scaled / count)
  steps + 36 * small / (small + 38)

/-! ## Encoding -/

def number (bias position value : Nat) : List Char :=
  let limit := threshold bias position
  if value < limit then [digit value]
  else
    digit (limit + (value - limit) % (36 - limit)) ::
      number bias (position + 36) ((value - limit) / (36 - limit))
termination_by value
decreasing_by
  have positive := threshold_pos bias position
  have small := Nat.div_le_self (value - threshold bias position) (36 - threshold bias position)
  omega

structure State where
  output : List Char
  difference : Nat
  bias : Nat
  count : Nat

/-- Passes a character of the text while `code` is being written. -/
def visit (basics code : Nat) (state : State) (char : Char) : State :=
  if char.toNat < code then { state with difference := state.difference + 1 }
  else if char.toNat = code then
    ⟨state.output ++ number state.bias 36 state.difference, 0,
      adapt state.difference (state.count + 1) (state.count == basics), state.count + 1⟩
  else state

/-- Writes the characters of ascending codes, the first of which is not below `next`. -/
def writeCodes (chars : List Char) (basics next : Nat) (state : State) : List Nat → State
  | [] => state
  | code :: rest =>
    let skipped := { state with
      difference := state.difference + (code - next) * (state.count + 1) }
    let state := chars.foldl (visit basics code) skipped
    writeCodes chars basics (code + 1) { state with difference := state.difference + 1 } rest

/-- The codes of the characters that are not basic, each once and in ascending order. -/
def extraCodes (chars : List Char) : List Nat :=
  (((chars.filter fun char => !isBasic char).map Char.toNat).mergeSort).eraseDups

def encode (chars : List Char) : List Char :=
  let basics := chars.filter isBasic
  let front := if basics.isEmpty then [] else basics ++ ['-']
  (writeCodes chars basics.length 128 ⟨front, 0, 72, basics.length⟩ (extraCodes chars)).output

/-! ## Decoding -/

/-- The value that the digits at the front spell, and what follows them. -/
def readNumber? (bias : Nat) : Nat → Nat → Nat → List Char → Option (Nat × List Char)
  | _, _, _, [] => none
  | position, weight, sofar, char :: rest => do
    let value ← digitValue? char
    let limit := threshold bias position
    let sofar := sofar + value * weight
    if value < limit then some (sofar, rest)
    else readNumber? bias (position + 36) (weight * (36 - limit)) sofar rest

def scalar? (code : Nat) : Option Char :=
  if h : code.isValidChar then some (Char.ofNatAux code h) else none

/-- Inserts the encoded characters one by one; `place` counts insertions past all places of all
codes so far. -/
def insertAll? (output : List Char) (code place bias : Nat) (first : Bool) :
    Nat → List Char → Option (List Char)
  | 0, _ => none
  | _ + 1, [] => some output
  | fuel + 1, chars => do
    let (difference, rest) ← readNumber? bias 36 1 0 chars
    let places := output.length + 1
    let place := place + difference
    let code := code + place / places
    let char ← scalar? code
    let position := place % places
    insertAll? (output.take position ++ char :: output.drop position) code (position + 1)
      (adapt difference places first) false fuel rest

/-- The characters before and after the last hyphen. -/
def splitLastHyphen (chars : List Char) : List Char × List Char :=
  let reversed := chars.reverse
  let after := reversed.takeWhile fun char => char != '-'
  (((reversed.drop after.length).drop 1).reverse, after.reverse)

def decode? (chars : List Char) : Option (List Char) :=
  let (basics, extras) := splitLastHyphen chars
  if basics.all isBasic then insertAll? basics 128 0 72 true (extras.length + 1) extras else none

end Gatehouse.Idna.Punycode

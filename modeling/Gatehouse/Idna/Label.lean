import Gatehouse.Idna.LabelTable
import Gatehouse.Idna.Normalization

/-!
# Checks on labels

What a label of a domain name must keep: it does not begin with a combining
mark, joiners stand only where they change the shape of letters, and labels
written from right to left do not mix directions.
-/

set_option autoImplicit false

namespace Gatehouse.Idna

def isMark (char : Char) : Bool :=
  Run.holds markRuns char

/-! ## Joiners -/

inductive Joining
  | left
  | right
  | dual
  | transparent
  | none
  deriving DecidableEq, Repr

def joining (char : Char) : Joining :=
  match (Run.find? joiningRuns char).map Run.value with
  | some [1] => .left
  | some [2] => .right
  | some [3] => .dual
  | some [4] => .transparent
  | _ => .none

def isVirama (char : Char) : Bool :=
  Normalization.combiningClass char == 9

def joinsForward (char : Char) : Bool :=
  joining char == .left || joining char == .dual

def joinsBackward (char : Char) : Bool :=
  joining char == .right || joining char == .dual

/-- The first character that is not transparent passes a test. -/
def reaches (test : Char → Bool) (chars : List Char) : Bool :=
  ((chars.dropWhile fun char => joining char == .transparent).head?).any test

/-- Every joiner stands where it may; what comes before stands in reverse. -/
def joinersAllowed (before : List Char) : List Char → Bool
  | [] => true
  | char :: rest =>
    let afterVirama := before.head?.any isVirama
    let allowed :=
      if char = '\u200d' then afterVirama
      else if char = '\u200c' then
        afterVirama || (reaches joinsForward before && reaches joinsBackward rest)
      else true
    allowed && joinersAllowed (char :: before) rest

/-! ## Directions -/

inductive Direction
  | leftToRight
  | rightToLeft
  | arabicLetter
  | arabicNumber
  | europeanNumber
  | europeanSeparator
  | commonSeparator
  | europeanTerminator
  | otherNeutral
  | boundaryNeutral
  | nonspacingMark
  | other
  deriving DecidableEq, Repr

def direction (char : Char) : Direction :=
  match (Run.find? directionRuns char).map Run.value with
  | some [1] => .rightToLeft
  | some [2] => .arabicLetter
  | some [3] => .arabicNumber
  | some [4] => .europeanNumber
  | some [5] => .europeanSeparator
  | some [6] => .commonSeparator
  | some [7] => .europeanTerminator
  | some [8] => .otherNeutral
  | some [9] => .boundaryNeutral
  | some [10] => .nonspacingMark
  | _ => .leftToRight

/-- A character that makes its domain one of both directions. -/
def turns (char : Char) : Bool :=
  [.rightToLeft, .arabicLetter, .arabicNumber].contains (direction char)

/-- Directions that may stand anywhere after the first character. -/
def neutrals : List Direction :=
  [.europeanNumber, .europeanSeparator, .commonSeparator, .europeanTerminator, .otherNeutral,
    .boundaryNeutral, .nonspacingMark]

/-- The directions without the marks at the end. -/
def withoutTrailingMarks (directions : List Direction) : List Direction :=
  (directions.reverse.dropWhile fun found => found == .nonspacingMark).reverse

/-- The directions of a label do not mix. -/
def directionsAllowed (label : List Char) : Bool :=
  match label.map direction with
  | [] => true
  | first :: rest =>
    let rest := withoutTrailingMarks rest
    if first = .leftToRight then
      rest.all (fun found => found == .leftToRight || neutrals.contains found) &&
        (rest.getLast?.all fun last => last == .leftToRight || last == .europeanNumber)
    else if first = .rightToLeft ∨ first = .arabicLetter then
      rest.all (fun found =>
          found == .rightToLeft || found == .arabicLetter || found == .arabicNumber ||
            neutrals.contains found) &&
        (rest.getLast?.all fun last =>
          [.rightToLeft, .arabicLetter, .europeanNumber, .arabicNumber].contains last) &&
        !(rest.contains .arabicNumber && rest.contains .europeanNumber)
    else false

/-- The checks that do not depend on the other labels. -/
def labelAllowed (label : List Char) : Bool :=
  !(label.head?.any isMark) && joinersAllowed [] label

end Gatehouse.Idna

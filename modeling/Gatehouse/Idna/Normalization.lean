import Gatehouse.Idna.CompositionTable

/-!
# Composed normal form

Characters are taken apart, combining marks are put in the order of their
classes, and then characters are put together again wherever two of them compose
and nothing stands between them.  Korean syllables are composed by arithmetic.
-/

set_option autoImplicit false

namespace Gatehouse.Idna.Normalization

/-- The class by which a combining mark is put in order; zero for all other characters. -/
def combiningClass (char : Char) : Nat :=
  ((Run.find? classRuns char).bind fun run => run.value.head?).getD 0

/-! ## Taking apart -/

def firstSyllable : Nat := 0xAC00
def firstLead : Nat := 0x1100
def firstVowel : Nat := 0x1161
/-- One before the first trailing consonant. -/
def beforeTail : Nat := 0x11A7

def syllableLetters (index : Nat) : List Char :=
  let lead := Char.ofNat (firstLead + index / 588)
  let vowel := Char.ofNat (firstVowel + index % 588 / 28)
  if index % 28 = 0 then [lead, vowel] else [lead, vowel, Char.ofNat (beforeTail + index % 28)]

def parts? (char : Char) : Option (Char × Char) :=
  match (Run.find? composedRuns char).map Run.value with
  | some [first, second] => some (Char.ofNat first, Char.ofNat second)
  | _ => none

/-- A character taken apart; the first of two parts may have parts itself, at most four deep. -/
def decompose : Nat → Char → List Char
  | 0, char => [char]
  | depth + 1, char =>
    if firstSyllable ≤ char.toNat ∧ char.toNat < firstSyllable + 11172 then
      syllableLetters (char.toNat - firstSyllable)
    else
      match parts? char with
      | some (first, second) => decompose depth first ++ [second]
      | none => [char]

/-! ## Order of marks -/

/-- Puts a mark behind all marks before it that do not belong behind it. -/
def insertMark (char : Char) : List Char → List Char
  | [] => [char]
  | last :: rest =>
    if combiningClass last > combiningClass char then last :: insertMark char rest
    else char :: last :: rest

/-- Puts the marks in order; what is done stands in reverse. -/
def order (done : List Char) : List Char → List Char
  | [] => done.reverse
  | char :: rest =>
    order (if combiningClass char = 0 then char :: done else insertMark char done) rest

/-! ## Putting together -/

/-- The Korean syllable of two letters, or of a syllable without a tail and a trailing one. -/
def syllable? (first second : Char) : Option Char :=
  let a := first.toNat
  let b := second.toNat
  if firstLead ≤ a ∧ a < firstLead + 19 ∧ firstVowel ≤ b ∧ b < firstVowel + 21 then
    some (Char.ofNat (firstSyllable + (a - firstLead) * 588 + (b - firstVowel) * 28))
  else if firstSyllable ≤ a ∧ a < firstSyllable + 11172 ∧ (a - firstSyllable) % 28 = 0 ∧
      beforeTail < b ∧ b < beforeTail + 28 then
    some (Char.ofNat (a + (b - beforeTail)))
  else none

def compose? (first second : Char) : Option Char :=
  match syllable? first second with
  | some char => some char
  | none =>
    (composedRuns.find? fun run => run.value == [first.toNat, second.toNat]).map fun run =>
      Char.ofNat run.first

/-- Puts characters together: `starter` waits for marks to compose with, `kept` are the marks in
reverse that did not. -/
def composeFrom (starter : Char) (kept : List Char) : List Char → List Char
  | [] => starter :: kept.reverse
  | char :: rest =>
    let cls := combiningClass char
    let blocked :=
      match kept with
      | [] => false
      | last :: _ => combiningClass last == 0 || decide (combiningClass last ≥ cls)
    match if blocked then none else compose? starter char with
    | some composed => composeFrom composed kept rest
    | none =>
      if cls = 0 then starter :: kept.reverse ++ composeFrom char [] rest
      else composeFrom starter (char :: kept) rest

/-- Puts together from the first character that others can compose with. -/
def compose : List Char → List Char
  | [] => []
  | char :: rest =>
    if combiningClass char = 0 then composeFrom char [] rest else char :: compose rest

def normalize (chars : List Char) : List Char :=
  compose (order [] (chars.flatMap (decompose 4)))

end Gatehouse.Idna.Normalization

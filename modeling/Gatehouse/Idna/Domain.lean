import Gatehouse.Idna.Label
import Gatehouse.Idna.MappingTable
import Gatehouse.Idna.Punycode

/-!
# Internationalized domain names

A domain name of any characters as one of basic characters.  The characters are
mapped and put in normal form, the labels between the dots are checked, and a
label with other than basic characters is encoded behind `xn--`.  A label that
comes encoded is decoded for the checks.
-/

set_option autoImplicit false

namespace Gatehouse.Idna

/-- A run of which every second character is replaced holds this one. -/
def alternates (char : Char) (run : Run) : Bool :=
  (char.toNat - run.first) % 2 == 0

def shiftedBy (char : Char) (run : Run) : Char :=
  Char.ofNat (run.value.headD 0 + (char.toNat - run.first))

/-- The characters that stand for a character; none if it is not allowed. -/
def mapChar? (char : Char) : Option (List Char) :=
  if Run.holds keptRuns char then some [char]
  else
    match Run.find? shiftedRuns char with
    | some run => some [shiftedBy char run]
    | none =>
      match (Run.find? alternatingRuns char).filter (alternates char) with
      | some run => some [shiftedBy char run]
      | none =>
        match Run.find? spelledRuns char with
        | some run => some (run.value.map Char.ofNat)
        | none => if Run.holds droppedRuns char then some [] else none

def mapAll? (chars : List Char) : Option (List Char) :=
  (chars.mapM mapChar?).map List.flatten

def encodedLabel : List Char := ['x', 'n', '-', '-']

def encoded? : List Char → Option (List Char)
  | 'x' :: 'n' :: '-' :: '-' :: rest => some rest
  | _ => none

/-- A decoded label is as mapping and normal form would have left it, and needed encoding. -/
def decodedAllowed (label : List Char) : Bool :=
  label.all (Run.holds keptRuns) && Normalization.normalize label == label &&
    !label.all Punycode.isBasic

def shown? (label : List Char) : Option (List Char) :=
  match encoded? label with
  | none => some label
  | some rest => (Punycode.decode? rest).filter decodedAllowed

def sent (label : List Char) : List Char :=
  if label.all Punycode.isBasic then label else encodedLabel ++ Punycode.encode label

def toAscii? (domain : List Char) : Option (List Char) := do
  let mapped ← mapAll? domain
  let labels := (Normalization.normalize mapped).splitOn '.'
  let shown ← labels.mapM shown?
  let turning := shown.any fun label => label.any turns
  if shown.all labelAllowed ∧ (turning = true → shown.all directionsAllowed = true) then
    some (List.intercalate ['.'] (labels.map sent))
  else none

end Gatehouse.Idna

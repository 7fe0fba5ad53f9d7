import Gatehouse.Text.CaseTable

/-!
# Lower case

The full lower-case form of a text.  It goes character by character, except
that a capital sigma at the end of a word becomes a final sigma and that the
dotted capital I keeps its dot as a combining mark.
-/

set_option autoImplicit false

namespace Gatehouse.Text

open CaseTable

def inRanges (ranges : List (Nat × Nat)) (char : Char) : Bool :=
  ranges.any fun (first, last) => first ≤ char.toNat && char.toNat ≤ last

def isCased (char : Char) : Bool :=
  inRanges casedRanges char

/-- The character is passed over when the end of a word is looked for. -/
def isCaseIgnored (char : Char) : Bool :=
  inRanges ignoredRanges char

def CaseTable.Run.holds (run : Run) (code : Nat) : Bool :=
  run.first ≤ code && code ≤ run.last && (code - run.first) % run.step == 0

/-- The lower-case form of a character outside any word. -/
def lowerChar (char : Char) : Char :=
  if char.toNat < 0x80 then
    if 'A' ≤ char ∧ char ≤ 'Z' then Char.ofNat (char.toNat + 32) else char
  else
    match lowerRuns.find? fun run => run.holds char.toNat with
    | some run => Char.ofNat ((char.toNat : Int) + run.shift).toNat
    | none => char

def reachesCased (chars : List Char) : Bool :=
  match chars.dropWhile isCaseIgnored with
  | [] => false
  | char :: _ => isCased char

/-- The lower-case form of a character between those before it, in reverse, and those after it. -/
def lowerAt (before : List Char) (char : Char) (after : List Char) : List Char :=
  if char = 'Σ' then
    if reachesCased before && !reachesCased after then ['ς'] else ['σ']
  else if char = 'İ' then ['i', '\u0307']
  else [lowerChar char]

/-- Lower-cases what follows the characters in `before`, which stand in reverse. -/
def lowerFrom (before : List Char) : List Char → List Char
  | [] => []
  | char :: rest => lowerAt before char rest ++ lowerFrom (char :: before) rest

/-- The lower-case form of a text. -/
def lowerCase (text : String) : String :=
  String.ofList (lowerFrom [] text.toList)

end Gatehouse.Text

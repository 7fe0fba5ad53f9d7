import Gatehouse.Uuid

/-!
# Runs of characters

A table of character properties is a list of runs in ascending order: characters
next to each other that share a value.  Tables are kept as text.  A run is
written as the gap after the run before it, then `-` and the number of further
characters if there are any, then `=` and its value, the numbers of a list
joined by `+`.  All numbers are hexadecimal, and blanks divide the runs.
-/

set_option autoImplicit false

namespace Gatehouse.Idna

structure Run where
  first : Nat
  last : Nat
  value : List Nat
  deriving DecidableEq, Repr

namespace Run

def number (digits : List Char) : Nat :=
  (Uuid.ofHexDigits? digits).getD 0

/-- Reads one run that comes after `position`. -/
def read (position : Nat) (chars : List Char) : Run :=
  let extent := chars.takeWhile fun char => char != '='
  let value := (chars.dropWhile fun char => char != '=').drop 1
  let first := position + number (extent.takeWhile fun char => char != '-')
  let more := number ((extent.dropWhile fun char => char != '-').drop 1)
  ⟨first, first + more, if value.isEmpty then [] else (value.splitOn '+').map number⟩

def readFrom (position : Nat) : List (List Char) → List Run
  | [] => []
  | chars :: rest =>
    let run := read position chars
    run :: readFrom (run.last + 1) rest

def readAll (text : String) : List Run :=
  readFrom 0 (text.toList.splitOn ' ')

def find? (runs : List Run) (char : Char) : Option Run :=
  runs.find? fun run => run.first ≤ char.toNat && char.toNat ≤ run.last

def holds (runs : List Run) (char : Char) : Bool :=
  (find? runs char).isSome

end Run

end Gatehouse.Idna

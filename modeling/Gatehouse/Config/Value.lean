import Gatehouse.Json.Reading

/-!
# Configuration values

The tree that settings are read from, whatever it was written in, and how two
trees are laid over each other: tables key by key, everything else as a whole.
A path leads through the keys of tables and the items of lists.
-/

set_option autoImplicit false

namespace Gatehouse.Config

inductive Value
  | null
  | flag (value : Bool)
  | integer (value : Int)
  | float (value : Float)
  | text (value : String)
  | list (items : List Value)
  | table (entries : List (String × Value))
  deriving Inhabited

namespace Value

/-- The keys of a table with their values, in order. -/
abbrev Entries := List (String × Value)

def lookup? (key : String) (entries : Entries) : Option Value :=
  entries.lookup key

/-- Sets a key, in place if it is there. -/
def setKey (key : String) (value : Value) : Entries → Entries
  | [] => [(key, value)]
  | (found, old) :: rest =>
    if found = key then (key, value) :: rest else (found, old) :: setKey key value rest

mutual

def overlay (base : Value) : Value → Value
  | .table entries =>
    match base with
    | .table below => .table (overEntries below entries)
    | _ => .table (overEntries [] entries)
  | .null => .null
  | .flag value => .flag value
  | .integer value => .integer value
  | .float value => .float value
  | .text value => .text value
  | .list items => .list items

def overEntries (below : Entries) : Entries → Entries
  | [] => below
  | (key, value) :: rest =>
    overEntries (setKey key (overlay ((lookup? key below).getD .null) value) below) rest

end

/-- A step from a tree to one within it. -/
inductive Step
  | key (name : String)
  /-- An item of a list; a negative index counts from the end. -/
  | item (index : Int)
  deriving DecidableEq, Repr

def entries : Value → Entries
  | .table entries => entries
  | _ => []

def items : Value → List Value
  | .list items => items
  | _ => []

/-- The items with a place for the index, empty places put in where there is none, and that place. -/
def withPlace (items : List Value) (index : Int) : List Value × Nat :=
  let place : Int := if index < 0 then items.length + index else index
  if place < 0 then (List.replicate place.natAbs .null ++ items, 0)
  else (items ++ List.replicate (place.toNat + 1 - items.length) .null, place.toNat)

/-- Changes what a path leads to.  What stands in the way of the path gives way to tables and
lists. -/
def change (alter : Value → Value) : List Step → Value → Value
  | [], base => alter base
  | .key name :: rest, base =>
    let inner := change alter rest ((lookup? name base.entries).getD .null)
    .table (setKey name inner base.entries)
  | .item index :: rest, base =>
    let (items, place) := withPlace base.items index
    .list (items.modify place (change alter rest))

def ofOutline? : Json.Outline → Option Value
  | .null => some .null
  | .bool value => some (.flag value)
  | .number numeral =>
    match numeral.integer? with
    | some value =>
      if Decimal.minInt64 ≤ value ∧ value < Decimal.endUInt64 then some (.integer value)
      else some (.float numeral.float)
    | none => some (.float numeral.float)
  | .string raw => (Json.rawText? raw).map .text
  | .array items closed => if closed then (ofItems? items).map .list else none
  | .object members closed => if closed then (ofMembers? members).map .table else none
  | .broken => none
where
  ofItems? : List Json.Outline → Option (List Value)
    | [] => some []
    | item :: rest => do
      let value ← ofOutline? item
      let values ← ofItems? rest
      some (value :: values)
  ofMembers? : List (List UInt8 × Json.Outline) → Option Entries
    | [] => some []
    | (raw, item) :: rest => do
      let name ← Json.rawText? raw
      let value ← ofOutline? item
      let entries ← ofMembers? rest
      some ((name, value) :: entries)

end Value

end Gatehouse.Config

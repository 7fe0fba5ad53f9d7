import Gatehouse.Json.Reading

/-!
# Looking into an outline

Parts of an outline by name or place, for callers that want a part and not the
whole.  A part of another kind than asked for is absent.  Of members of one name
the last counts.
-/

set_option autoImplicit false

namespace Gatehouse.Json.Outline

/-- The members of an object with their names, in order. -/
def members : Outline → List (String × Outline)
  | .object members _ =>
    members.filterMap fun (raw, value) => (rawText? raw).map fun name => (name, value)
  | _ => []

def items : Outline → List Outline
  | .array items _ => items
  | _ => []

def get? (outline : Outline) (name : String) : Option Outline :=
  ((outline.members.filter fun found => found.1 == name).map Prod.snd).getLast?

/-- The member of a name, unless it is null. -/
def given? (outline : Outline) (name : String) : Option Outline :=
  match outline.get? name with
  | some .null => none
  | other => other

def asText? : Outline → Option String
  | .string raw => rawText? raw
  | _ => none

def asBool? : Outline → Option Bool
  | .bool value => some value
  | _ => none

/-- An integer; zero may carry a sign. -/
def asInt? : Outline → Option Int
  | .number numeral =>
    match numeral.integer? with
    | some value => some value
    | none => if numeral.significand = 0 then some 0 else none
  | _ => none

/-- The value of an outline; null if it has none. -/
def value (outline : Outline) : Json :=
  match readAny outline with
  | .ok value => value
  | .error _ => .null

def ofText (text : String) : Outline :=
  (Document.ofBytes (Text.bytes text)).root

end Gatehouse.Json.Outline

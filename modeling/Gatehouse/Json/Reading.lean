import Gatehouse.Instant.Timestamp
import Gatehouse.Json
import Gatehouse.Json.Outline
import Gatehouse.Text.Shortest
import Gatehouse.Uuid

/-!
# Reading values out of an outline

A reader walks an outline in the order of the text and stops at the first thing
that is wrong: text that is not JSON (`illFormed`), or JSON of another shape
than asked for (`shape`).  A record is read from an object with its fields in
any order, or from an array with its fields in order.
-/

set_option autoImplicit false

namespace Gatehouse.Json

inductive ReadError
  | illFormed
  /-- Where in the value, and what is wrong there. -/
  | shape (path : Option String) (detail : String)
  deriving DecidableEq, Repr

abbrev Reader (α : Type) := Outline → Except ReadError α

def shapeError {α : Type} (detail : String) : Except ReadError α :=
  .error (.shape none detail)

def inside {α : Type} (place : String) : Except ReadError α → Except ReadError α
  | .error (.shape none detail) => .error (.shape (some place) detail)
  | result => result

/-! ## What was found instead -/

def debugEscape (char : Char) : List Char :=
  if char = '"' then ['\\', '"']
  else if char = '\\' then ['\\', '\\']
  else if char = '\n' then ['\\', 'n']
  else if char = '\r' then ['\\', 'r']
  else if char = '\t' then ['\\', 't']
  else if char.toNat = 0 then ['\\', '0']
  else if char.toNat < 32 ∨ (127 ≤ char.toNat ∧ char.toNat < 160) then
    '\\' :: 'u' :: '\x7b' :: Nat.toDigits 16 char.toNat ++ ['\x7d']
  else [char]

def debugQuoted (text : String) : String :=
  String.ofList ('"' :: text.toList.flatMap debugEscape ++ ['"'])

def Numeral.float (numeral : Numeral) : Float :=
  Shortest.ofScaled numeral.negative numeral.significand numeral.scale

def Numeral.described (numeral : Numeral) : String :=
  let float := "floating point `" ++ Shortest.jsonText numeral.float ++ "`"
  match numeral.integer? with
  | some value =>
    if Decimal.minInt64 ≤ value ∧ value < Decimal.endUInt64 then "integer `" ++ toString value ++ "`"
    else float
  | none => float

/-- How a message names what was found; a string or number that cannot be read is ill-formed. -/
def Outline.described : Outline → Except ReadError String
  | .null => .ok "null"
  | .bool value => .ok ("boolean `" ++ toString value ++ "`")
  | .number numeral =>
    if numeral.overflows then .error .illFormed else .ok numeral.described
  | .string raw =>
    match rawText? raw with
    | some text => .ok ("string " ++ debugQuoted text)
    | none => .error .illFormed
  | .array _ _ => .ok "sequence"
  | .object _ _ => .ok "map"
  | .broken => .error .illFormed

/-- The value is not of the kind asked for. -/
def wrongType {α : Type} (expected : String) (found : Outline) : Except ReadError α := do
  let name ← found.described
  shapeError ("invalid type: " ++ name ++ ", expected " ++ expected)

/-! ## Single values -/

def readText : Reader String
  | .string raw =>
    match rawText? raw with
    | some text => .ok text
    | none => .error .illFormed
  | found => wrongType "a string" found

/-- An absent value is written `null`. -/
def readOptional {α : Type} (reader : Reader α) : Reader (Option α)
  | .null => .ok none
  | found => (reader found).map some

def readInt64 : Reader Int
  | .number numeral =>
    match numeral.integer? with
    | some value =>
      if Decimal.minInt64 ≤ value ∧ value ≤ Decimal.maxInt64 then .ok value
      else shapeError "invalid value: integer, expected i64"
    | none => wrongType "i64" (.number numeral)
  | found => wrongType "i64" found

def readUuid : Reader Uuid
  | .string raw => do
    let text ← readText (.string raw)
    match Uuid.ofText? text with
    | some id => .ok id
    | none => shapeError "UUID parsing failed"
  | found => wrongType "a formatted UUID string" found

def readInstant : Reader Instant
  | .string raw => do
    let text ← readText (.string raw)
    match Timestamp.ofText? text with
    | some instant => .ok instant
    | none => shapeError "input contains invalid characters"
  | found => wrongType "an RFC 3339 formatted date and time string" found

/-! ## Any value -/

/-- Sets a member, in place if it is there. -/
def setMember (name : String) (value : Json) : List (String × Json) → List (String × Json)
  | [] => [(name, value)]
  | (found, old) :: rest =>
    if found = name then (name, value) :: rest else (found, old) :: setMember name value rest

/-- A number as a value; an integer of more than 64 bits is rounded to a double. -/
def readNumeral (numeral : Numeral) : Except ReadError Json :=
  if numeral.overflows then .error .illFormed
  else
    match numeral.integer? with
    | some value =>
      if Decimal.minInt64 ≤ value ∧ value < Decimal.endUInt64 then .ok (.int value)
      else .ok (.decimal (Shortest.jsonText numeral.float))
    | none => .ok (.decimal (Shortest.jsonText numeral.float))

mutual

/-- Reads any value whose arrays and objects are nested less than `depth` deep.  Of members of one
name the last counts. -/
def readNested (depth : Nat) : Reader Json
  | .null => .ok .null
  | .bool value => .ok (.bool value)
  | .number numeral => readNumeral numeral
  | .string raw => (readText (.string raw)).map .str
  | .array items closed =>
    match depth with
    | 0 => .error .illFormed
    | depth + 1 => do
      let values ← readItems depth items
      if closed then .ok (.arr values) else .error .illFormed
  | .object members closed =>
    match depth with
    | 0 => .error .illFormed
    | depth + 1 => do
      let values ← readMembers depth [] members
      if closed then .ok (.obj values) else .error .illFormed
  | .broken => .error .illFormed

def readItems (depth : Nat) : List Outline → Except ReadError (List Json)
  | [] => .ok []
  | item :: rest => do
    let value ← readNested depth item
    let values ← readItems depth rest
    .ok (value :: values)

def readMembers (depth : Nat) (sofar : List (String × Json)) :
    List (List UInt8 × Outline) → Except ReadError (List (String × Json))
  | [] => .ok sofar
  | (raw, item) :: rest => do
    let name ← readText (.string raw)
    let value ← readNested depth item
    readMembers depth (setMember name value sofar) rest

end

def maxDepth : Nat := 127

def readAny : Reader Json :=
  readNested maxDepth

/-! ## Records -/

/-- A named field: whether it may be missing, and the check its value has to pass. -/
structure Field where
  name : String
  optional : Bool
  check : Outline → Except ReadError Unit

def Field.required {α : Type} (name : String) (reader : Reader α) : Field :=
  ⟨name, false, fun value => (reader value).map fun _ => ()⟩

def Field.optionally {α : Type} (name : String) (reader : Reader α) : Field :=
  ⟨name, true, fun value => (reader value).map fun _ => ()⟩

abbrev Found := List (String × Outline)

/-- Collects an object's members in order.  Members that name no field are passed over. -/
def collectMembers (fields : List Field) (found : Found) :
    List (List UInt8 × Outline) → Except ReadError Found
  | [] => .ok found
  | (raw, value) :: rest => do
    match rawText? raw with
    | none => .error .illFormed
    | some name =>
      match fields.find? fun field => field.name == name with
      | none =>
        if value.whole then collectMembers fields found rest else .error .illFormed
      | some field =>
        if (found.lookup name).isSome then shapeError ("duplicate field `" ++ name ++ "`")
        else
          inside name (field.check value)
          collectMembers fields ((name, value) :: found) rest

/-- The fields without a value that need one; the first of them is missed. -/
def checkPresent (fields : List Field) (found : Found) : Except ReadError Unit :=
  match fields.find? fun field => !field.optional && (found.lookup field.name).isNone with
  | some field => shapeError ("missing field `" ++ field.name ++ "`")
  | none => .ok ()

/-- Collects an array's items as the fields in order. -/
def collectItems (title : String) (total : Nat) (closed : Bool) (position : Nat) (found : Found) :
    List Field → List Outline → Except ReadError Found
  | [], [] => if closed then .ok found else .error .illFormed
  | [], _ :: _ => .error .illFormed
  | field :: fields, [] =>
    if !closed then .error .illFormed
    else if field.optional then
      collectItems title total closed (position + 1) found fields []
    else
      shapeError ("invalid length " ++ toString position ++ ", expected " ++ title ++ " with " ++
        toString total ++ (if total = 1 then " element" else " elements"))
  | field :: fields, item :: items => do
    inside ("[" ++ toString position ++ "]") (field.check item)
    collectItems title total closed (position + 1) ((field.name, item) :: found) fields items

def collect (title : String) (fields : List Field) : Outline → Except ReadError Found
  | .object members closed => do
    let found ← collectMembers fields [] members
    if closed then
      checkPresent fields found
      .ok found
    else .error .illFormed
  | .array items closed => collectItems title fields.length closed 0 [] fields items
  | found => wrongType title found

def Found.read {α : Type} (found : Found) (name : String) (reader : Reader α) :
    Except ReadError α :=
  match found.lookup name with
  | some value => reader value
  | none => shapeError ("missing field `" ++ name ++ "`")

def Found.readOr {α : Type} (found : Found) (name : String) (reader : Reader α) (default : α) :
    Except ReadError α :=
  match found.lookup name with
  | some value => reader value
  | none => .ok default

/-- Reads a whole text: one value, and nothing but blanks after it. -/
def readDocument {α : Type} (reader : Reader α) (data : List UInt8) : Except ReadError α := do
  let document := Outline.Document.ofBytes data
  let value ← reader document.root
  if document.ended then .ok value else .error .illFormed

def ReadError.detail : ReadError → String
  | .illFormed => "the text is not well-formed"
  | .shape (some path) detail => path ++ ": " ++ detail
  | .shape none detail => detail

end Gatehouse.Json

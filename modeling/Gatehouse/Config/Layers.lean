import Gatehouse.Config.Settings
import Gatehouse.Config.Toml

/-!
# Layered configuration

Settings come from three sources laid over each other: the default file, the
file of the environment, and variables whose names start with a label.  A
variable's text is read as a truth value or a number where it looks like one.
-/

set_option autoImplicit false

namespace Gatehouse.Config

/-! ## Variables -/

/-- What every variable's name starts with, in lower case. -/
def variableLabel : List Char := "tollgate__".toList

/-- A double underscore divides the keys of a variable's name; it becomes a dot. -/
def dotted : List Char → List Char
  | '_' :: '_' :: rest => '.' :: dotted rest
  | char :: rest => char :: dotted rest
  | [] => []

/-- The key that a variable sets, if it sets one. -/
def variableKey? (name : String) : Option String :=
  (Token.afterFront? variableLabel (Text.lowerCase name).toList).map fun rest =>
    String.ofList (dotted rest)

def floatParts? (chars : List Char) : Option (List Char × List Char × Int) :=
  let isMark := fun char => char == 'e' || char == 'E'
  let mantissa := chars.takeWhile fun char => !isMark char
  let whole := mantissa.takeWhile fun char => char != '.'
  let fraction := (mantissa.dropWhile fun char => char != '.').drop 1
  let power :=
    match chars.dropWhile fun char => !isMark char with
    | [] => some 0
    | _ :: digits => Decimal.power? digits
  if (whole ++ fraction).isEmpty ∨ !(whole ++ fraction).all Char.isDigit then none
  else power.map fun power => (whole, fraction, power)

/-- Reads a decimal number, infinity or no number. -/
def float? (text : String) : Option Float :=
  let (negative, rest) := Toml.splitSign text.toList
  let word := String.ofList (rest.map Char.toLower)
  if word = "inf" ∨ word = "infinity" then some (if negative then -1.0 / 0.0 else 1.0 / 0.0)
  else if word = "nan" then some (0.0 / 0.0)
  else do
    let (whole, fraction, power) ← floatParts? rest
    let significand ← Decimal.natural? (whole ++ fraction)
    some (Shortest.ofScaled negative significand (power - fraction.length))

def variableValue (text : String) : Value :=
  let word := Text.lowerCase text
  if word = "true" then .flag true
  else if word = "false" then .flag false
  else
    match Decimal.int64? text.toList with
    | some number => .integer number
    | none =>
      match float? text with
      | some number => .float number
      | none => .text text

/-! ## Paths -/

def isNameChar (char : Char) : Bool :=
  char.isAlphanum || char == '_' || char == '-'

/-- The name at the front, and what follows it. -/
def name? (chars : List Char) : Option (String × List Char) :=
  match chars.takeWhile isNameChar with
  | [] => none
  | name => some (String.ofList name, chars.dropWhile isNameChar)

/-- The index before a closing bracket, and what follows that. -/
def subscript? (chars : List Char) : Option (Int × List Char) :=
  let isIndexChar := fun char : Char => char == '-' || char.isDigit
  let chars := Toml.skipSpaces chars
  match Toml.skipSpaces (chars.dropWhile isIndexChar) with
  | ']' :: rest => (Decimal.int64? (chars.takeWhile isIndexChar)).map fun index => (index, rest)
  | _ => none

/-- The steps that follow a name; each takes up a character at least. -/
def steps? : Nat → List Char → Option (List Value.Step)
  | _, [] => some []
  | 0, _ => none
  | fuel + 1, '.' :: rest => do
    let (name, rest) ← name? rest
    let steps ← steps? fuel rest
    some (.key name :: steps)
  | fuel + 1, '[' :: rest => do
    let (index, rest) ← subscript? rest
    let steps ← steps? fuel rest
    some (.item index :: steps)
  | _, _ => none

/-- A key of names with dots between them, and with indices in brackets behind them, is a path; any
other stands for itself. -/
def pathOf (key : String) : List Value.Step :=
  let path? : Option (List Value.Step) := do
    let (root, rest) ← name? key.toList
    let steps ← steps? rest.length rest
    some (.key root :: steps)
  path?.getD [.key key]

/-- Lays a source over a tree, its outermost keys as paths. -/
def Value.overSource (base : Value) : Value.Entries → Value
  | [] => base
  | (key, value) :: rest => (base.change (·.overlay value) (pathOf key)).overSource rest

/-- What the variables set; of the variables for one key the last counts. -/
def variableEntries : List (String × String) → Value.Entries
  | [] => []
  | (name, text) :: rest =>
    let entries := variableEntries rest
    match variableKey? name with
    | none => entries
    | some key =>
      if (Value.lookup? key entries).isSome then entries
      else (key, variableValue text) :: entries

/-- The entries of a file; a file that is absent has none. -/
def fileEntries? : Option String → Option Value.Entries
  | none => some []
  | some text =>
    match Toml.parse text with
    | some (.table entries) => some entries
    | _ => none

/-- The sources of a configuration, the first of which comes before all others. -/
def sources? (defaultFile environmentFile : Option String) (named : List (String × String)) :
    Option (List Value.Entries) := do
  let lowest ← fileEntries? defaultFile
  let middle ← fileEntries? environmentFile
  some [variableEntries named, middle, lowest]

/-- The tree in which every source is laid over those that come after it. -/
def laid (sources : List Value.Entries) : Value :=
  sources.foldr (fun source base => base.overSource source) (.table [])

def loadFrom (sources : List Value.Entries) : Except Failure Settings :=
  match readSettings .lenient (laid sources) with
  | none => .error (.configShape "a setting has the wrong type")
  | some settings => do
    settings.validate
    .ok settings

def load (defaultFile environmentFile : Option String) (named : List (String × String)) :
    Except Failure Settings :=
  match sources? defaultFile environmentFile named with
  | none => .error (.configUnreadable "a file is not valid TOML")
  | some sources => loadFrom sources

end Gatehouse.Config

/-!
# JSON values and their text

Values with ordered members, and the compact writer.  A string is written with
the two-character escapes where JSON has one, `\u` with four digits for the
other control characters, and everything else as it is.
-/

set_option autoImplicit false

namespace Gatehouse

inductive Json
  | null
  | bool (value : Bool)
  | int (value : Int)
  /-- A number with a fraction or an exponent, already written out. -/
  | decimal (text : String)
  | str (value : String)
  | arr (items : List Json)
  | obj (members : List (String × Json))
  deriving Inhabited

namespace Json

def optional {α : Type} (write : α → Json) : Option α → Json
  | some value => write value
  | none => null

def member? (value : Json) (name : String) : Option Json :=
  match value with
  | obj members => members.lookup name
  | _ => none

/-- The lower-case hexadecimal digit of a value below sixteen. -/
def hexDigit (value : Nat) : Char :=
  if value < 10 then Char.ofNat (48 + value) else Char.ofNat (87 + value)

def escape (char : Char) : List Char :=
  if char = '"' then ['\\', '"']
  else if char = '\\' then ['\\', '\\']
  else if char.toNat = 8 then ['\\', 'b']
  else if char.toNat = 12 then ['\\', 'f']
  else if char = '\n' then ['\\', 'n']
  else if char = '\r' then ['\\', 'r']
  else if char = '\t' then ['\\', 't']
  else if char.toNat < 32 then
    ['\\', 'u', '0', '0', hexDigit (char.toNat / 16), hexDigit (char.toNat % 16)]
  else [char]

def quoted (text : String) : List Char :=
  '"' :: text.toList.flatMap escape ++ ['"']

def intChars (value : Int) : List Char :=
  match value with
  | .ofNat magnitude => (Nat.repr magnitude).toList
  | .negSucc magnitude => '-' :: (Nat.repr (magnitude + 1)).toList

mutual

def chars : Json → List Char
  | null => ['n', 'u', 'l', 'l']
  | bool true => ['t', 'r', 'u', 'e']
  | bool false => ['f', 'a', 'l', 's', 'e']
  | int value => intChars value
  | decimal text => text.toList
  | str value => quoted value
  | arr items => '[' :: itemChars items
  | obj members => '\x7b' :: memberChars members

/-- The items after an opening bracket, and the closing one. -/
def itemChars : List Json → List Char
  | [] => [']']
  | [item] => chars item ++ [']']
  | item :: next :: rest => chars item ++ ',' :: itemChars (next :: rest)

/-- The members after an opening brace, and the closing one. -/
def memberChars : List (String × Json) → List Char
  | [] => ['\x7d']
  | [(name, value)] => quoted name ++ ':' :: chars value ++ ['\x7d']
  | (name, value) :: next :: rest =>
    quoted name ++ ':' :: chars value ++ ',' :: memberChars (next :: rest)

end

def text (value : Json) : String :=
  String.ofList value.chars

end Json

end Gatehouse

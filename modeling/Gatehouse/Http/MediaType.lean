import Gatehouse.Failure

/-!
# Media types

What a body is announced as: a type, a subtype with an optional suffix after a
plus sign, and parameters.  The parameters have to be well-formed but mean
nothing here.  Names are compared without regard to case.
-/

set_option autoImplicit false

namespace Gatehouse.Http

/-- The character may stand in a name or in a value without quotes. -/
def isTokenChar (char : Char) : Bool :=
  char.isAlphanum || "!#$%&'*+-.^_\x60|~".toList.contains char

structure MediaType where
  kind : String
  subtype : String
  /-- What follows the last plus sign of the subtype. -/
  suffix : Option String
  deriving DecidableEq, Repr

namespace MediaType

/-! ## Parameters -/

inductive Place
  | beforeName
  | inName
  | beforeValue
  | inValue
  | quoteOpened
  | inQuotes
  | quoteClosed
  deriving DecidableEq, Repr

namespace Place

/-- Reads one character, if it may stand in this place. -/
def step (place : Place) (char : Char) : Option Place :=
  match place with
  | beforeName =>
    if char = ' ' then some beforeName else if isTokenChar char then some inName else none
  | inName =>
    if isTokenChar char then some inName else if char = '=' then some beforeValue else none
  | beforeValue =>
    if char = '"' then some quoteOpened else if isTokenChar char then some inValue else none
  | inValue =>
    if isTokenChar char then some inValue else if char = ';' then some beforeName else none
  | quoteOpened => if ' ' ≤ char ∧ char ≠ '\x7f' then some inQuotes else none
  | inQuotes =>
    if char = '"' then some quoteClosed
    else if ' ' ≤ char ∧ char ≠ '\x7f' then some inQuotes
    else none
  | quoteClosed =>
    if char = ';' then some beforeName else if char = ' ' then some quoteClosed else none

def final : Place → Bool
  | beforeName | beforeValue | inValue | quoteClosed => true
  | inName | quoteOpened | inQuotes => false

end Place

/-- The text after the first semicolon is a list of parameters. -/
def parametersFine (chars : List Char) : Bool :=
  ((chars.foldlM Place.step .beforeName).map Place.final).getD false

/-! ## Types -/

/-- The parts before and after the last plus sign; a plus sign in front of everything is part of the
name. -/
def splitSuffix (name : List Char) : List Char × Option (List Char) :=
  let suffix := (name.reverse.takeWhile fun char => char != '+').reverse
  let rest := name.length - suffix.length
  if 2 ≤ rest then (name.take (rest - 1), some suffix) else (name, none)

def endingFine (name rest : List Char) : Bool :=
  match rest with
  | [] => true
  | mark :: parameters => mark == ';' && !name.isEmpty && parametersFine parameters

def ofText? (text : String) : Option MediaType :=
  let lower (chars : List Char) : String := String.ofList (chars.map Char.toLower)
  let kind := text.toList.takeWhile isTokenChar
  match text.toList.dropWhile isTokenChar with
  | '/' :: after =>
    let name := after.takeWhile isTokenChar
    if !kind.isEmpty && endingFine name (after.dropWhile isTokenChar) then
      let (subtype, suffix) := splitSuffix name
      some ⟨lower kind, lower subtype, suffix.map lower⟩
    else none
  | _ => none

/-- The type announces JSON, by its name or by its suffix. -/
def isJson (media : MediaType) : Bool :=
  media.kind == "application" && (media.subtype == "json" || media.suffix == some "json")

end MediaType

end Gatehouse.Http

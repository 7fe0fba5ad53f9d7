import Gatehouse.Http.Identity
import Gatehouse.Instant
import Gatehouse.Instant.HttpDate
import Gatehouse.Text.Percent

/-!
# Cookies

What a client sends and what it is told to keep.  Names and values travel percent
coded; a pair that cannot be read is passed over, and of pairs of one name the
last counts.
-/

set_option autoImplicit false

namespace Gatehouse.Http

structure Cookie where
  name : String
  value : String
  deriving DecidableEq, Repr

namespace Cookie

/-! ## Reading -/

/-- The text that is left after percent decoding, if it is valid UTF-8. -/
def decoded? (chars : List Char) : Option String :=
  Text.ofBytes? (Text.Percent.decode (Text.bytes (String.ofList chars)))

/-- A name, an equals sign and a value, with blanks around each. -/
def ofPair? (pair : List Char) : Option Cookie :=
  let name := Text.trim (pair.takeWhile fun char => char != '=')
  match pair.dropWhile fun char => char != '=' with
  | [] => none
  | _ :: value =>
    if name.isEmpty then none
    else
      match decoded? name, decoded? (Text.trim value) with
      | some name, some value => some ⟨name, value⟩
      | _, _ => none

def parts : List Char → List (List Char)
  | [] => [[]]
  | char :: rest =>
    if char = ';' then [] :: parts rest
    else
      match parts rest with
      | [] => [[char]]
      | part :: more => (char :: part) :: more

/-- The cookies in the values of the `cookie` headers, in order. -/
def sent (values : List (List UInt8)) : List Cookie :=
  values.flatMap fun value =>
    match visibleText? value with
    | some text => (parts text.toList).filterMap ofPair?
    | none => []

/-- The value of the last cookie of a name. -/
def find? (cookies : List Cookie) (name : String) : Option String :=
  ((cookies.filter fun cookie => cookie.name == name).map Cookie.value).getLast?

/-! ## Writing -/

def keeps (byte : UInt8) : Bool :=
  33 ≤ byte && byte ≤ 126 &&
    !((Text.bytes "\"<>\x60#?\x7b\x7d/:;=@[\\]^|%(),").contains byte)

def encoded (text : String) : String :=
  Text.ofLatin1 (Text.Percent.encode keeps (Text.bytes text))

/-- Tells a client to keep a cookie for the whole site, out of reach of scripts. -/
def issue (cookie : Cookie) : String :=
  encoded cookie.name ++ "=" ++ encoded cookie.value ++ "; HttpOnly; SameSite=Lax; Path=/"

/-- Seconds by which a cookie to be dropped has expired: a year. -/
def dropAge : Int := 31536000

def drop (name : String) (now : Instant) : String :=
  encoded name ++ "=; Path=/; Max-Age=0; Expires=" ++ HttpDate.text (now.seconds - dropAge)

end Cookie

end Gatehouse.Http

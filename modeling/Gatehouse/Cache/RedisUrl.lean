import Gatehouse.Net.Address
import Gatehouse.Text.Bytes
import Gatehouse.Text.Decimal
import Gatehouse.Text.Percent

/-!
# Connection addresses

Which texts name a Redis server, and how such a text is shown without its
password.  Nothing of the password is left: not where it holds the marks that
divide the parts of an address, and not in a text that names no server.
-/

set_option autoImplicit false

namespace Gatehouse.Cache.RedisUrl

/-! ## Without the password -/

/-- The characters before and after the first `://`. -/
def splitScheme? : List Char → Option (List Char × List Char)
  | ':' :: '/' :: '/' :: rest => some ([], rest)
  | [] => none
  | char :: rest => (splitScheme? rest).map fun (scheme, rest) => (char :: scheme, rest)

/-- The characters before and after the last mark. -/
def splitLast? (mark : Char) (chars : List Char) : Option (List Char × List Char) :=
  let reversed := chars.reverse
  let after := reversed.takeWhile fun char => char != mark
  match reversed.dropWhile fun char => char != mark with
  | [] => none
  | _ :: before => some (before.reverse, after.reverse)

/-- The characters before and after the first mark. -/
def splitFirst? (mark : Char) (chars : List Char) : Option (List Char × List Char) :=
  match chars.dropWhile fun char => char != mark with
  | [] => none
  | _ :: after => some (chars.takeWhile fun char => char != mark, after)

def stars : List Char := ['*', '*', '*', '*']

def schemeEnd : List Char := [':', '/', '/']

/-- An address without its password. -/
def redactChars (url : List Char) : List Char :=
  match splitScheme? url with
  | none => url
  | some (scheme, rest) =>
    match splitLast? '@' rest with
    | none => url
    | some (user, host) =>
      match splitFirst? ':' user with
      | some (name, _) => scheme ++ schemeEnd ++ name ++ ':' :: (stars ++ '@' :: host)
      | none => scheme ++ schemeEnd ++ (stars ++ '@' :: host)

def redact (url : String) : String :=
  String.ofList (redactChars url.toList)

/-! ## Naming a server -/

def netSchemes : List String := ["redis", "valkey"]

def socketSchemes : List String := ["redis+unix", "unix", "valkey+unix"]

/-- Characters that no host holds. -/
def hostBreakers : List Char :=
  Char.ofNat 0 :: "\t\n\r #/:<>?@[\\]^|".toList

def isHostName (host : List Char) : Bool :=
  !host.isEmpty && host.all fun char => !hostBreakers.contains char

/-- A name, or an address of version 6 in brackets. -/
def isHost (host : List Char) : Bool :=
  match host with
  | '[' :: rest =>
    rest.getLast? == some ']' &&
      match Address.ofChars? rest.dropLast with
      | some (.v6 _) => true
      | _ => false
  | _ => isHostName host

def isPort (port : List Char) : Bool :=
  port.isEmpty || Address.isPort port

/-- The host, and the port if there is one; a colon inside brackets divides nothing. -/
def splitPort (chars : List Char) : List Char × List Char :=
  let after := (chars.reverse.takeWhile fun char => char != ']').reverse
  match splitFirst? ':' after with
  | none => (chars, [])
  | some (name, port) => (chars.take (chars.length - after.length) ++ name, port)

def isHostAndPort (chars : List Char) : Bool :=
  isHost (splitPort chars).1 && isPort (splitPort chars).2

/-- The bytes of percent-coded characters. -/
def percentDecode (chars : List Char) : List UInt8 :=
  Text.Percent.decode (chars.flatMap String.utf8EncodeChar)

/-- User and password are texts once they are decoded. -/
def isUser (user : List Char) : Bool :=
  (Text.ofBytes? (percentDecode user)).isSome

def isAuthority (chars : List Char) : Bool :=
  match splitLast? '@' chars with
  | some (user, host) => isUser user && isHostAndPort host
  | none => isHostAndPort chars

/-- Nothing, or this machine by its name; who asks and at which port is not looked at. -/
def isLocal (chars : List Char) : Bool :=
  let place := ((splitLast? '@' chars).map (·.2)).getD chars
  chars.isEmpty || ((splitPort place).1 == "localhost".toList && isPort (splitPort place).2)

/-- The parts of a path, each `.` left out and each `..` with the part before it. -/
def parts (path : List Char) : List (List Char) :=
  (path.splitOn '/').foldl (fun before part =>
    match percentDecode part with
    | [0x2e] => before
    | [0x2e, 0x2e] => before.dropLast
    | _ => before ++ [part]) []

/-- A number of a database, if there is one. -/
def isDatabase (path : List Char) : Bool :=
  let ahead := (parts path).dropWhile List.isEmpty
  let inside := (ahead.reverse.dropWhile List.isEmpty).reverse
  match inside with
  | [] => true
  | [name] => (Decimal.int64? name).isSome
  | _ => false

/-- The last value that a query gives a name. -/
def queried? (name : String) (query : List Char) : Option (List UInt8) :=
  let decode := fun chars : List Char =>
    percentDecode (chars.map fun char => if char == '+' then ' ' else char)
  let pairs := (query.splitOn '&').map fun pair => (splitFirst? '=' pair).getD (pair, [])
  (pairs.reverse.find? fun pair => decode pair.1 == name.toUTF8.toList).map fun pair =>
    decode pair.2

def isProtocol (query : List Char) : Bool :=
  match queried? "protocol" query with
  | none => true
  | some version =>
    ["2", "resp2", "3", "resp3"].any fun known => version == known.toUTF8.toList

def isQueriedDatabase (query : List Char) : Bool :=
  match queried? "db" query with
  | none => true
  | some name => ((Text.ofBytes? name).bind fun text => Decimal.int64? text.toList).isSome

/-- What remains of a text that is read as an address: nothing of the controls and blanks at either
end, and no line breaks or tabs inside. -/
def essence (chars : List Char) : List Char :=
  let ahead := chars.dropWhile fun char => char.toNat ≤ 32
  let inside := (ahead.reverse.dropWhile fun char => char.toNat ≤ 32).reverse
  inside.filter fun char => !(char == '\t' || char == '\n' || char == '\r')

/-- The client opens such addresses: a host that is reached without encryption, or the path of a
socket on this machine. -/
def valid (url : String) : Bool :=
  match splitFirst? ':' (essence url.toList) with
  | none => false
  | some (scheme, rest) =>
    let scheme := String.ofList (scheme.map Char.toLower)
    let beforeMark := rest.takeWhile fun char => char != '#'
    let (place, query) := (splitFirst? '?' beforeMark).getD (beforeMark, [])
    let (authority, path) :=
      match place with
      | '/' :: '/' :: after => after.span fun char => char != '/'
      | _ => ([], place)
    isProtocol query &&
      if netSchemes.contains scheme then isAuthority authority && isDatabase path
      else socketSchemes.contains scheme && isLocal authority && path.head? == some '/' &&
        isQueriedDatabase query

end Gatehouse.Cache.RedisUrl

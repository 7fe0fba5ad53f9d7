import Gatehouse.Digest.Sha256
import Gatehouse.Text.Base64
import Gatehouse.Token.Claims
import Gatehouse.Token.Header

/-!
# Signed tokens

A token is three base64 segments joined by dots: header, payload, and the
HMAC-SHA256 of the first two.  `authenticate` checks everything that does not
depend on the clock, in the order header, signature, payload, kind; `decode`
adds the expiry, so that a forged token is never even called expired.
-/

set_option autoImplicit false

namespace Gatehouse

/-- A secret to sign with; it is never empty. -/
structure Secret where
  text : String
  nonempty : text ≠ ""

namespace Secret

def of? (text : String) : Option Secret :=
  if h : text ≠ "" then some ⟨text, h⟩ else none

/-- An empty text is no secret: using one is given up. -/
def ofText (text : String) : Outcome Secret :=
  match of? text with
  | some secret => .ok secret
  | none => .error (.crash .emptySecret)

def bytes (secret : Secret) : List UInt8 :=
  Text.bytes secret.text

end Secret

namespace Token

structure Segments where
  header : List Char
  payload : List Char
  signature : List Char
  deriving DecidableEq, Repr

/-- The characters before and after the last dot. -/
def splitLastDot? (chars : List Char) : Option (List Char × List Char) :=
  let reversed := chars.reverse
  let after := reversed.takeWhile fun char => char != '.'
  match reversed.dropWhile fun char => char != '.' with
  | [] => none
  | _ :: before => some (before.reverse, after.reverse)

/-- Splits a token at its last two dots. -/
def Segments.of? (chars : List Char) : Option Segments := do
  let (signed, signature) ← splitLastDot? chars
  let (header, payload) ← splitLastDot? signed
  some ⟨header, payload, signature⟩

def Segments.signed (segments : Segments) : List Char :=
  segments.header ++ '.' :: segments.payload

def Segments.chars (segments : Segments) : List Char :=
  segments.signed ++ '.' :: segments.signature

def mac (secret : Secret) (signed : List Char) : List UInt8 :=
  Digest.hmacSha256 secret.bytes (Text.bytes (String.ofList signed))

def segment (text : String) : List Char :=
  Base64.encode .urlSafe (Text.bytes text)

def encode {γ : Type} [Claims γ] (claims : γ) (secret : Secret) : String :=
  let header := segment headerText
  let payload := segment (Claims.write claims).text
  let signed := header ++ '.' :: payload
  String.ofList (signed ++ '.' :: Base64.encode .urlSafe (mac secret signed))

def segmentOutline (segment : List Char) : Json.Outline :=
  match Base64.decode .urlSafe segment with
  | some data => (Json.Outline.Document.ofBytes data).root
  | none => .broken

/-- Header and payload as they stand in a token; nothing is verified. -/
def inspect (token : String) : Json.Outline × Json.Outline :=
  match Segments.of? token.toList with
  | some segments => (segmentOutline segments.header, segmentOutline segments.payload)
  | none => (.broken, .broken)

/-! ## Registered claims -/

inductive Kept
  | readable
  /-- Not readable, but passed over as a whole. -/
  | passed
  /-- Not readable, and left in the middle. -/
  | stuck
  deriving DecidableEq, Repr

/-- The exponent of a number is so long that reading stops inside it. -/
def stopsInExponent (numeral : Json.Numeral) : Bool :=
  match numeral.exponent with
  | some (false, digits) =>
    numeral.significand != 0 && decide (Json.Numeral.ofDigits digits.dropLast > 2147483647)
  | _ => false

def keptNumber (numeral : Json.Numeral) : Kept :=
  if stopsInExponent numeral then .stuck
  else if numeral.overflows then .passed
  else .readable

def keptString (raw : List UInt8) : Kept :=
  match Json.unescape [] raw with
  | none => .stuck
  | some data => if (Text.ofBytes? data).isSome then .readable else .passed

mutual

/-- How a value of any shape is kept, with so many levels of nesting left. -/
def kept (levels : Nat) : Json.Outline → Kept
  | .null => .readable
  | .bool _ => .readable
  | .number numeral => keptNumber numeral
  | .string raw => keptString raw
  | .array items _ => if levels = 0 then .stuck else keptItems (levels - 1) items
  | .object members _ => if levels = 0 then .stuck else keptMembers (levels - 1) members
  | .broken => .stuck

def keptItems (levels : Nat) : List Json.Outline → Kept
  | [] => .readable
  | item :: rest =>
    match kept levels item with
    | .readable => keptItems levels rest
    | .passed => if rest.isEmpty then .passed else .stuck
    | .stuck => .stuck

def keptMembers (levels : Nat) : List (List UInt8 × Json.Outline) → Kept
  | [] => .readable
  | (name, value) :: rest =>
    match keptString name with
    | .readable =>
      match kept levels value with
      | .readable => keptMembers levels rest
      | .passed => if rest.isEmpty then .passed else .stuck
      | .stuck => .stuck
    | _ => .stuck

end

def nesting : Nat := 126

def isTexts : List Json.Outline → Bool
  | [] => true
  | .string _ :: rest => isTexts rest
  | _ :: _ => false

def isAudience : Json.Outline → Bool
  | .string _ => true
  | .array items _ => isTexts items
  | _ => false

/-- The audience claim, if present, must not name an audience: no token is issued for one. -/
def audienceAccepted (value : Json.Outline) : Bool :=
  match kept nesting value with
  | .stuck => false
  | .passed => true
  | .readable => !isAudience value

/-- The issuer claim is not looked at. -/
def issuerAccepted (value : Json.Outline) : Bool :=
  kept nesting value != .stuck

/-- The not-before claim is not looked at, but it must not be a filled array or object. -/
def notBeforeAccepted : Json.Outline → Bool
  | .array items _ => items.isEmpty
  | .object members _ => members.isEmpty
  | value => kept nesting value != .stuck

def membersNamed (name : String) (members : List (List UInt8 × Json.Outline)) :
    List Json.Outline :=
  members.filterMap fun (raw, value) => if Json.rawText? raw = some name then some value else none

/-- A claim that stands at most once and passes a check. -/
def atMostOnce (check : Json.Outline → Bool) : List Json.Outline → Bool
  | [] => true
  | [value] => check value
  | _ => false

/-- The payload is an object whose registered claims stand in nobody's way. -/
def registeredAccepted : Json.Outline → Bool
  | .object members _ =>
    atMostOnce audienceAccepted (membersNamed "aud" members) &&
      atMostOnce issuerAccepted (membersNamed "iss" members) &&
      atMostOnce notBeforeAccepted (membersNamed "nbf" members)
  | _ => false

/-! ## Reading -/

def algorithm? (header : List Char) : Option Algorithm := do
  let data ← Base64.decode .urlSafe header
  (Json.readDocument readHeader data).toOption

/-- The claims that a payload segment holds; their expiry is not before 1970. -/
def claims? {γ : Type} [Claims γ] (payload : List Char) : Option γ := do
  let data ← Base64.decode .urlSafe payload
  let claims : γ ← (Json.readDocument Claims.read data).toOption
  if registeredAccepted (Json.Outline.Document.ofBytes data).root = true ∧
      0 ≤ (Claims.expiresAt claims).toInt then
    some claims
  else none

def orMalformed {α : Type} : Option α → Except Failure α
  | some value => .ok value
  | none => .error .malformedToken

/-- The claims of a token that is properly signed and of the right kind. -/
def authenticate {γ : Type} [Claims γ] (token : String) (secret : Secret) : Except Failure γ := do
  let segments ← orMalformed (Segments.of? token.toList)
  let algorithm ← orMalformed (algorithm? segments.header)
  if algorithm ≠ .hs256 then .error .badSignature
  else
    let signature ← orMalformed (Base64.decode .urlSafe segments.signature)
    if signature ≠ mac secret segments.signed then .error .badSignature
    else
      let claims : γ ← orMalformed (claims? segments.payload)
      if Claims.kind claims ≠ Claims.expected γ then
        .error (.wrongTokenKind (Claims.expected γ))
      else .ok claims

/-- The claims, if they have not expired. -/
def unexpired {γ : Type} [Claims γ] (now : Instant) (claims : γ) : Except Failure γ :=
  if (Claims.expiresAt claims).toInt ≤ now.seconds then .error .tokenExpired else .ok claims

/-- Verifies a token as of `now` and gives its claims. -/
def decode {γ : Type} [Claims γ] (token : String) (secret : Secret) (now : Instant) :
    Except Failure γ := do
  let claims : γ ← authenticate token secret
  unexpired now claims

end Token

end Gatehouse

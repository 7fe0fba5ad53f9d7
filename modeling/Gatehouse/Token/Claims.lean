import Gatehouse.Failure
import Gatehouse.Instant
import Gatehouse.Json.Reading
import Gatehouse.Token.Kind
import Gatehouse.Uuid

/-!
# Claims

What a token asserts.  Access claims carry a display name, refresh claims do
not; everything the codec needs of either is in the class `Claims`.
-/

set_option autoImplicit false

namespace Gatehouse

structure Principal where
  id : Uuid
  displayName : String
  deriving DecidableEq, Repr

structure AccessClaims where
  subject : Uuid
  name : String
  /-- Seconds since the start of 1970. -/
  issuedAt : Int64
  expiresAt : Int64
  kind : TokenKind
  deriving DecidableEq, Repr

structure RefreshClaims where
  subject : Uuid
  issuedAt : Int64
  expiresAt : Int64
  kind : TokenKind
  deriving DecidableEq, Repr

class Claims (γ : Type) where
  /-- The only kind of token these claims may be read from. -/
  expected : TokenKind
  subject : γ → Uuid
  expiresAt : γ → Int64
  kind : γ → TokenKind
  write : γ → Json
  read : Json.Reader γ

/-- One of the two words, or an object whose only member is one of them with the value `null`. -/
def readTokenKind : Json.Reader TokenKind
  | .string raw => do
    let word ← Json.readText (.string raw)
    match TokenKind.ofClaim? word with
    | some kind => .ok kind
    | none => Json.shapeError ("unknown variant `" ++ word ++ "`")
  | .object [(raw, .null)] true => do
    let word ← Json.readText (.string raw)
    match TokenKind.ofClaim? word with
    | some kind => .ok kind
    | none => Json.shapeError ("unknown variant `" ++ word ++ "`")
  | .object _ _ => .error .illFormed
  | found => Json.wrongType "enum TokenType" found

def readTime : Json.Reader Int64 := fun found =>
  (Json.readInt64 found).map Int64.ofInt

namespace AccessClaims

def write (claims : AccessClaims) : Json :=
  .obj [("sub", .str claims.subject.text), ("name", .str claims.name),
    ("iat", .int claims.issuedAt.toInt), ("exp", .int claims.expiresAt.toInt),
    ("typ", .str claims.kind.claim)]

def fields : List Json.Field :=
  [.required "sub" Json.readUuid, .required "name" Json.readText, .required "iat" readTime,
    .required "exp" readTime, .required "typ" readTokenKind]

def read : Json.Reader AccessClaims := fun outline => do
  let found ← Json.collect "access claims" fields outline
  let subject ← found.read "sub" Json.readUuid
  let name ← found.read "name" Json.readText
  let issuedAt ← found.read "iat" readTime
  let expiresAt ← found.read "exp" readTime
  let kind ← found.read "typ" readTokenKind
  .ok ⟨subject, name, issuedAt, expiresAt, kind⟩

instance : Claims AccessClaims where
  expected := .access
  subject := AccessClaims.subject
  expiresAt := AccessClaims.expiresAt
  kind := AccessClaims.kind
  write := write
  read := read

end AccessClaims

namespace RefreshClaims

def write (claims : RefreshClaims) : Json :=
  .obj [("sub", .str claims.subject.text), ("iat", .int claims.issuedAt.toInt),
    ("exp", .int claims.expiresAt.toInt), ("typ", .str claims.kind.claim)]

def fields : List Json.Field :=
  [.required "sub" Json.readUuid, .required "iat" readTime, .required "exp" readTime,
    .required "typ" readTokenKind]

def read : Json.Reader RefreshClaims := fun outline => do
  let found ← Json.collect "refresh claims" fields outline
  let subject ← found.read "sub" Json.readUuid
  let issuedAt ← found.read "iat" readTime
  let expiresAt ← found.read "exp" readTime
  let kind ← found.read "typ" readTokenKind
  .ok ⟨subject, issuedAt, expiresAt, kind⟩

instance : Claims RefreshClaims where
  expected := .refresh
  subject := RefreshClaims.subject
  expiresAt := RefreshClaims.expiresAt
  kind := RefreshClaims.kind
  write := write
  read := read

end RefreshClaims

/-- The instant `hours` after `issuedAt`. -/
def expiry (issuedAt : Instant) (hours : Nat) : Except Failure Instant :=
  match issuedAt.later? (hours * 3600) with
  | some instant => .ok instant
  | none => .error (.lifetimeOutOfRange hours)

/-- The instant's whole seconds as a claim. -/
def Instant.claim (instant : Instant) : Int64 :=
  Int64.ofInt instant.seconds

def AccessClaims.issue (principal : Principal) (issuedAt : Instant) (hours : Nat) :
    Except Failure AccessClaims := do
  let expires ← expiry issuedAt hours
  .ok ⟨principal.id, principal.displayName, issuedAt.claim, expires.claim, .access⟩

def RefreshClaims.issue (principal : Principal) (issuedAt : Instant) (hours : Nat) :
    Except Failure RefreshClaims := do
  let expires ← expiry issuedAt hours
  .ok ⟨principal.id, issuedAt.claim, expires.claim, .refresh⟩

end Gatehouse

import Gatehouse.Text.Blank
import Gatehouse.Token.Codec

/-!
# Issuing and presenting tokens

Tokens are issued with a scheme label in front and accepted with or without it.
A pair holds both kinds, issued from one instant; it is issued whole or not at
all.
-/

set_option autoImplicit false

namespace Gatehouse

structure TokenSettings where
  accessSecret : String
  refreshSecret : String
  accessHours : Nat
  refreshHours : Nat
  deriving DecidableEq, Repr

/-- The settings as a log shows them, without the secrets. -/
def TokenSettings.display (settings : TokenSettings) : String :=
  "TokenSettings \x7b access_ttl_hours: " ++ toString settings.accessHours ++
    ", refresh_ttl_hours: " ++ toString settings.refreshHours ++ ", .. \x7d"

structure TokenPair where
  accessToken : String
  refreshToken : String
  accessExpiresAt : Instant
  refreshExpiresAt : Instant
  deriving DecidableEq, Repr

namespace TokenPair

def members (pair : TokenPair) : List (String × Json) :=
  [("access_token", .str pair.accessToken), ("refresh_token", .str pair.refreshToken),
    ("access_expires_at", .str (Timestamp.text pair.accessExpiresAt)),
    ("refresh_expires_at", .str (Timestamp.text pair.refreshExpiresAt))]

def write (pair : TokenPair) : Json :=
  .obj pair.members

end TokenPair

namespace Token

def issueAccess (label : String) (principal : Principal) (secret : String) (hours : Nat)
    (issuedAt : Instant) : Outcome String := do
  let claims ← Outcome.ofExcept (AccessClaims.issue principal issuedAt hours)
  let secret ← Secret.ofText secret
  .ok (label ++ encode claims secret)

def issueRefresh (label : String) (principal : Principal) (secret : String) (hours : Nat)
    (issuedAt : Instant) : Outcome String := do
  let claims ← Outcome.ofExcept (RefreshClaims.issue principal issuedAt hours)
  let secret ← Secret.ofText secret
  .ok (label ++ encode claims secret)

def issuePair (label : String) (principal : Principal) (settings : TokenSettings)
    (issuedAt : Instant) : Outcome TokenPair := do
  let access ← issueAccess label principal settings.accessSecret settings.accessHours issuedAt
  let refresh ← issueRefresh label principal settings.refreshSecret settings.refreshHours issuedAt
  let accessExpiresAt ← Outcome.ofExcept (expiry issuedAt settings.accessHours)
  let refreshExpiresAt ← Outcome.ofExcept (expiry issuedAt settings.refreshHours)
  .ok ⟨access, refresh, accessExpiresAt, refreshExpiresAt⟩

/-- The characters after `front`, if they start with it. -/
def afterFront? : List Char → List Char → Option (List Char)
  | [], chars => some chars
  | _ :: _, [] => none
  | expected :: front, char :: chars => if expected = char then afterFront? front chars else none

/-- A presented token without blanks around it and without the label. -/
def bare (label presented : String) : String :=
  let token := Text.trim presented.toList
  String.ofList (Text.trimStart ((afterFront? label.toList token).getD token))

/-- The claims of a presented token as of `now`. -/
def verify {γ : Type} [Claims γ] (label presented secret : String) (now : Instant) :
    Outcome γ := do
  let secret ← Secret.ofText secret
  Outcome.ofExcept (decode (bare label presented) secret now)

end Token

end Gatehouse

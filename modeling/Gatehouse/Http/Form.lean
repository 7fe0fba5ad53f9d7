import Gatehouse.Account.Email
import Gatehouse.Failure
import Gatehouse.Json.Reading

/-!
# Request forms

What the bodies of requests hold and the rules for their fields.  All broken
rules are reported together, by field.
-/

set_option autoImplicit false

namespace Gatehouse.Http

/-- A rule for a field: what is wrong with it, unless it holds. -/
structure Rule where
  field : String
  message : String
  holds : Bool

def checkRules (rules : List Rule) : Except Failure Unit :=
  match rules.filter fun rule => !rule.holds with
  | [] => .ok ()
  | broken => .error (.invalidFields (broken.map fun rule => rule.field ++ ": " ++ rule.message))

def emailRule (email : String) : Rule :=
  ⟨"email", "Email is invalid", Email.valid email⟩

/-! ## Signing up -/

structure SignupForm where
  name : String
  email : String
  password : String
  deriving DecidableEq, Repr

namespace SignupForm

def fields : List Json.Field :=
  [.required "name" Json.readText, .required "email" Json.readText,
    .required "password" Json.readText]

def read : Json.Reader SignupForm := fun outline => do
  let found ← Json.collect "struct SignupRequest" fields outline
  let name ← found.read "name" Json.readText
  let email ← found.read "email" Json.readText
  let password ← found.read "password" Json.readText
  .ok ⟨name, email, password⟩

def rules (form : SignupForm) : List Rule :=
  [emailRule form.email,
    ⟨"name", "Name must be at least 3 characters",
      decide (3 ≤ form.name.length ∧ form.name.length ≤ 100)⟩,
    ⟨"password", "Password must be at least 6 characters", decide (6 ≤ form.password.length)⟩]

def write (form : SignupForm) : Json :=
  .obj [("name", .str form.name), ("email", .str form.email), ("password", .str form.password)]

end SignupForm

/-! ## Logging in -/

structure LoginForm where
  email : String
  password : String
  captchaAnswer : Option String
  captchaSession : Option String
  deriving DecidableEq, Repr

namespace LoginForm

def readMaybe : Json.Reader (Option String) :=
  Json.readOptional Json.readText

def fields : List Json.Field :=
  [.required "email" Json.readText, .required "password" Json.readText,
    .optionally "captcha_answer" readMaybe, .optionally "captcha_session" readMaybe]

def read : Json.Reader LoginForm := fun outline => do
  let found ← Json.collect "struct LoginRequest" fields outline
  let email ← found.read "email" Json.readText
  let password ← found.read "password" Json.readText
  let captchaAnswer ← found.readOr "captcha_answer" readMaybe none
  let captchaSession ← found.readOr "captcha_session" readMaybe none
  .ok ⟨email, password, captchaAnswer, captchaSession⟩

def rules (form : LoginForm) : List Rule :=
  [emailRule form.email, ⟨"password", "Password is required", decide (1 ≤ form.password.length)⟩]

def write (form : LoginForm) : Json :=
  .obj [("email", .str form.email), ("password", .str form.password),
    ("captcha_answer", Json.optional .str form.captchaAnswer),
    ("captcha_session", Json.optional .str form.captchaSession)]

end LoginForm

/-! ## Refreshing -/

structure RefreshForm where
  refreshToken : String
  deriving DecidableEq, Repr

namespace RefreshForm

def fields : List Json.Field :=
  [.required "refresh_token" Json.readText]

def read : Json.Reader RefreshForm := fun outline => do
  let found ← Json.collect "struct RefreshRequest" fields outline
  let refreshToken ← found.read "refresh_token" Json.readText
  .ok ⟨refreshToken⟩

def rules (form : RefreshForm) : List Rule :=
  [⟨"refresh_token", "Refresh token is required", decide (1 ≤ form.refreshToken.length)⟩]

def write (form : RefreshForm) : Json :=
  .obj [("refresh_token", .str form.refreshToken)]

end RefreshForm

/-! ## Any form -/

/-- A kind of body: how it is read and written, and what its rules are. -/
class Form (φ : Type) where
  read : Json.Reader φ
  rules : φ → List Rule
  write : φ → Json

instance : Form SignupForm := ⟨SignupForm.read, SignupForm.rules, SignupForm.write⟩
instance : Form LoginForm := ⟨LoginForm.read, LoginForm.rules, LoginForm.write⟩
instance : Form RefreshForm := ⟨RefreshForm.read, RefreshForm.rules, RefreshForm.write⟩

def Form.check {φ : Type} [Form φ] (form : φ) : Except Failure φ := do
  checkRules (Form.rules form)
  .ok form

end Gatehouse.Http

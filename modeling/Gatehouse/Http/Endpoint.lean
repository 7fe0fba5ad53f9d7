import Gatehouse.Http.Message

/-!
# Endpoints

What the service offers, under which paths and methods.  Paths are compared to
the letter.  Whoever may read an endpoint may also ask for the headers alone.
-/

set_option autoImplicit false

namespace Gatehouse.Http

inductive Endpoint
  | signup
  | login
  | refresh
  | captcha
  | me
  | health
  deriving DecidableEq, Repr

namespace Endpoint

def all : List Endpoint :=
  [signup, login, refresh, captcha, me, health]

def path : Endpoint → String
  | signup => "/api/auth/signup"
  | login => "/api/auth/login"
  | refresh => "/api/auth/refresh"
  | captcha => "/api/auth/captcha"
  | me => "/api/auth/me"
  | health => "/api/health"

def ofPath? (path : String) : Option Endpoint :=
  all.find? fun endpoint => endpoint.path == path

theorem ofPath?_path (endpoint : Endpoint) : ofPath? endpoint.path = some endpoint := by
  cases endpoint <;> decide

def method : Endpoint → Method
  | signup | login | refresh => .post
  | captcha | me | health => .get

def serves (endpoint : Endpoint) (method : Method) : Bool :=
  method == endpoint.method || (method == .head && endpoint.method == .get)

/-- The methods that the endpoint serves, as a client is told. -/
def allow (endpoint : Endpoint) : Header :=
  .text "allow" (if endpoint.method = .get then "GET,HEAD" else "POST")

def throttled : Endpoint → Bool
  | signup | login | refresh | captcha => true
  | me | health => false

end Endpoint

end Gatehouse.Http

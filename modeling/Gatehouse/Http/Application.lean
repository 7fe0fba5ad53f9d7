import Gatehouse.Account.Access
import Gatehouse.Http.Body
import Gatehouse.Http.Cookie
import Gatehouse.Http.Cors
import Gatehouse.Http.Endpoint
import Gatehouse.Throttle.Gate

/-!
# The application

How a request is answered.  From the outside in: the answer carries a trace
identifier; requests for options are answered at once; the path selects an
endpoint; the gate counts the request; the method has to be the endpoint's own;
and the endpoint does its work.
-/

set_option autoImplicit false

namespace Gatehouse.Http

open Service

def accountSettings (settings : Config.Settings) : Account.Settings :=
  { label := settings.auth.tokenLabel
    tokens := settings.auth.tokens
    captcha := ⟨settings.captcha.imageWidth, settings.captcha.imageHeight,
      settings.server.contextTimeoutMs⟩
    captchaRequired := settings.captcha.requiredForLogin
    limit := settings.server.contextTimeoutMs }

/-! ## The endpoints at work -/

def answering {α : Type} (render : α → Response) (flow : Flow (Outcome α)) : Flow Response :=
  flow.bind fun outcome => .done (Response.ofOutcome render outcome)

def signup (settings : Config.Settings) (request : Request) : Flow Response :=
  match request.form SignupForm with
  | .error failure => .done (.failed failure)
  | .ok form =>
    answering (fun admission => .success 201 admission.write)
      (Account.signup (accountSettings settings) ⟨form.name, form.email, form.password⟩)

/-- The answer to a login.  Whether it succeeds or not, the client drops the cookie of the challenge,
if it sent one; only a crash leaves no time for that. -/
def loginAnswer (dropping : List Header) : Outcome Account.Admission → Response
  | .ok admission => (Response.success 200 admission.write).withHeaders dropping
  | .error (.failure failure) => (Response.failed failure).withHeaders dropping
  | .error (.crash crash) => .failed crash.asFailure

/-- The challenge that a login answers: the form names its session, or else the cookie does. -/
def LoginForm.captcha (form : LoginForm) (held : Option String) : Option Account.CaptchaAnswer :=
  form.captchaAnswer.map fun answer => ⟨(form.captchaSession.or held).getD "", answer⟩

def login (settings : Config.Settings) (request : Request) : Flow Response :=
  match request.form LoginForm with
  | .error failure => .done (.failed failure)
  | .ok form =>
    let name := settings.captcha.cookieName
    let held := Cookie.find? (Cookie.sent (request.values "cookie")) name
    .ask .now fun now =>
      let dropping := if held.isSome then [Header.text "set-cookie" (Cookie.drop name now)] else []
      (Account.login (accountSettings settings)
        ⟨form.email, form.password, form.captcha held⟩).bind fun outcome =>
          .done (loginAnswer dropping outcome)

def refresh (settings : Config.Settings) (request : Request) : Flow Response :=
  match request.form RefreshForm with
  | .error failure => .done (.failed failure)
  | .ok form =>
    answering (fun pair => .success 200 pair.write)
      (Account.refresh (accountSettings settings) form.refreshToken)

def captcha (settings : Config.Settings) : Flow Response :=
  answering
    (fun challenge =>
      (Response.success 200 challenge.write).withHeaders
        [.text "set-cookie"
          (Cookie.issue ⟨settings.captcha.cookieName, challenge.session.text⟩)])
    (Captcha.generate (accountSettings settings).captcha)

def Request.authorization (request : Request) : Outcome String :=
  match (request.first? "authorization").bind visibleText? with
  | some presented => .ok presented
  | none => fail .missingAuthorization

def caller (settings : Config.Settings) (request : Request) : Flow (Outcome User) :=
  .ask .now fun now =>
    let claims : Outcome AccessClaims := do
      Token.verify settings.auth.tokenLabel (← request.authorization)
        settings.auth.tokens.accessSecret now
    match claims with
    | .error fault => .done (.error fault)
    | .ok claims =>
      (Flow.askStore settings.server.contextTimeoutMs (.findById claims.subject)).andThen fun
        | some user => .done (.ok user)
        | none => .stop .userNotFound

def me (settings : Config.Settings) (request : Request) : Flow Response :=
  answering (fun user => .success 200 user.write) (caller settings request)

def version : String := "0.1.0"

/-- How the cache is doing, in one word. -/
def cacheWord : Reply Bool → String
  | .answered (.ok true) => "connected"
  | .answered (.ok false) => "degraded"
  | .answered (.error _) => "unreachable"
  | .late => "unreachable"

def health (settings : Config.Settings) : Flow Response :=
  .ask (.cache settings.server.contextTimeoutMs .health) fun reply =>
    .done (.success 200 (.obj [("status", .str "ok"), ("version", .str version),
      ("cache", .str (cacheWord reply))]))

def serve (settings : Config.Settings) (request : Request) : Endpoint → Flow Response
  | .signup => signup settings request
  | .login => login settings request
  | .refresh => refresh settings request
  | .captcha => captcha settings
  | .me => me settings request
  | .health => health settings

/-! ## The way to an endpoint -/

def sender (settings : Config.Settings) (request : Request) : String :=
  identity settings.server.trustForwardedFor (request.values "x-forwarded-for") request.peer

def passes (settings : Config.Settings) (request : Request) (endpoint : Endpoint) : Flow Bool :=
  if settings.rateLimit.enabled && endpoint.throttled then
    Throttle.pass settings.rateLimit.backend settings.rateLimit.requestsPerMinute
      settings.server.contextTimeoutMs (sender settings request)
  else .done true

/-- What the endpoint answers behind the gate; a method that it does not serve is refused, and the
client is told in any case which methods it does serve. -/
def atEndpoint (settings : Config.Settings) (request : Request) (endpoint : Endpoint) :
    Flow Response :=
  let served := endpoint.serves request.method
  (passes settings request endpoint).bind fun passed =>
    (if passed then
        if served then serve settings request endpoint else .done (.bare 405)
      else .done (.failed .tooManyRequests)).bind fun response =>
    let response := if served then response else response.withHeaders [endpoint.allow]
    .done (if request.method = .head then response.withoutBody else response)

def atPath (settings : Config.Settings) (request : Request) : Flow Response :=
  let endpoint := Endpoint.ofPath? request.path
  let cors := settings.server.cors
  if request.method = .options then
    .done ((cors.preflight request).withHeaders (endpoint.toList.map Endpoint.allow))
  else
    (endpoint.elim (.done (.bare 404)) (atEndpoint settings request)).bind fun response =>
      .done (response.withHeaders (cors.headers request))

/-- The trace identifier of a request, or a fresh one. -/
def traceOf (request : Request) : Flow Header :=
  match request.first? "x-trace-id" with
  | some value => .done ⟨"x-trace-id", value⟩
  | none => .ask .freshId fun id => .done (.text "x-trace-id" id.text)

def respond (settings : Config.Settings) (request : Request) : Flow Response :=
  (traceOf request).bind fun trace =>
    (atPath settings request).bind fun response =>
      .done (response.withHeaders [trace])

end Gatehouse.Http

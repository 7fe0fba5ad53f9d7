import Gatehouse.Captcha.Challenge
import Gatehouse.Token.Pair

/-!
# Signing up, logging in, refreshing

The flows that end in a fresh pair of tokens.  Login verifies the challenge
first, so that every attempt costs one, and compares the password with a stand-in
hash when nobody has the address, so that unknown addresses look like wrong
passwords.
-/

set_option autoImplicit false

namespace Gatehouse.Account

open Service

structure Settings where
  label : String
  tokens : TokenSettings
  captcha : Captcha.Settings
  captchaRequired : Bool
  /-- Limit for calls of the user store in milliseconds. -/
  limit : Nat
  deriving DecidableEq, Repr

structure Signup where
  name : String
  email : String
  password : String
  deriving DecidableEq, Repr

structure CaptchaAnswer where
  session : String
  answer : String
  deriving DecidableEq, Repr

structure Login where
  email : String
  password : String
  captcha : Option CaptchaAnswer
  deriving DecidableEq, Repr

structure Admission where
  user : User
  tokens : TokenPair
  deriving DecidableEq, Repr

def Admission.write (admission : Admission) : Json :=
  .obj (admission.tokens.members ++ [("user", admission.user.write)])

def issueFor (settings : Settings) (user : User) : Flow (Outcome Admission) :=
  .ask .now fun now =>
    .done do
      let tokens ← Token.issuePair settings.label user.principal settings.tokens now
      .ok ⟨user, tokens⟩

def signup (settings : Settings) (input : Signup) : Flow (Outcome Admission) :=
  (Flow.askStore settings.limit (.findByEmail input.email)).andThen fun
    | some _ => .stop .emailTaken
    | none =>
      .ask (.hash input.password) fun
        | .error failure => .stop failure
        | .ok hash =>
          (Flow.askStore settings.limit (.create ⟨input.name, input.email, hash⟩)).andThen
            fun user => issueFor settings user

/-- Spends a comparison on a password without a user, and rejects it. -/
def rejectUnknown (password : String) : Flow (Outcome Admission) :=
  .ask .standIn fun
    | .error _ => .stop .invalidCredentials
    | .ok hash => .ask (.compare password hash) fun _ => .stop .invalidCredentials

def checkCredentials (settings : Settings) (input : Login) : Flow (Outcome Admission) :=
  (Flow.askStore settings.limit (.findByEmail input.email)).andThen fun
    | none => rejectUnknown input.password
    | some user =>
      .ask (.compare input.password user.passwordHash) fun
        | .error failure => .stop failure
        | .ok false => .stop .invalidCredentials
        | .ok true => issueFor settings user

def checkCaptcha (settings : Settings) (input : Login) : Flow (Outcome Unit) :=
  if settings.captchaRequired then
    match input.captcha with
    | none => .stop .captchaRequired
    | some captcha => Captcha.verify settings.captcha captcha.session captcha.answer
  else .done (.ok ())

def login (settings : Settings) (input : Login) : Flow (Outcome Admission) :=
  (checkCaptcha settings input).andThen fun _ => checkCredentials settings input

/-! ## Refreshing -/

inductive RefreshStage
  | receivedToken
  | verified
  | userResolved
  | reissued
  deriving DecidableEq, Repr

namespace RefreshStage

def all : List RefreshStage :=
  [receivedToken, verified, userResolved, reissued]

def name : RefreshStage → String
  | receivedToken => "received_token"
  | verified => "verified"
  | userResolved => "user_resolved"
  | reissued => "reissued"

end RefreshStage

/-- Exchanges a refresh token for a new pair as of `now`. -/
def refreshAt (label : String) (tokens : TokenSettings) (limit : Nat) (presented : String)
    (now : Instant) : Flow (Outcome TokenPair) :=
  match (Token.verify label presented tokens.refreshSecret now : Outcome RefreshClaims) with
  | .error fault => .done (.error fault)
  | .ok claims =>
    (Flow.askStore limit (.findById claims.subject)).andThen fun
      | none => .stop .userNotFound
      | some user => .done (Token.issuePair label user.principal tokens now)

def refresh (settings : Settings) (presented : String) : Flow (Outcome TokenPair) :=
  .ask .now fun now =>
    refreshAt settings.label settings.tokens settings.limit presented now

end Gatehouse.Account

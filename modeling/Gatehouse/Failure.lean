import Gatehouse.Token.Kind

/-!
# Failures

Everything that can go wrong is one cause of `Failure`.  A cause determines its
`Kind`, which decides how the outside is answered, and its message.  Nothing
else in the library spells a message of its own.

`Crash` holds the two conditions under which a computation is given up instead
of answered; `Fault` is either.
-/

set_option autoImplicit false

namespace Gatehouse

inductive Kind
  | malformed
  | invalidSignature
  | expired
  | userNotFound
  | incorrectAnswer
  | tooManyRequests
  | unavailable
  | authentication
  | validation
  | conflict
  | signing
  | cache
  | configuration
  | serialization
  | internal
  deriving DecidableEq, Repr

namespace Kind

def all : List Kind :=
  [malformed, invalidSignature, expired, userNotFound, incorrectAnswer, tooManyRequests,
    unavailable, authentication, validation, conflict, signing, cache, configuration,
    serialization, internal]

def code : Kind → String
  | malformed => "MALFORMED"
  | invalidSignature => "INVALID_SIGNATURE"
  | expired => "EXPIRED"
  | userNotFound => "USER_NOT_FOUND"
  | incorrectAnswer => "INCORRECT_ANSWER"
  | tooManyRequests => "TOO_MANY_REQUESTS"
  | unavailable => "UNAVAILABLE"
  | authentication => "AUTHENTICATION"
  | validation => "VALIDATION"
  | conflict => "CONFLICT"
  | signing => "SIGNING"
  | cache => "CACHE"
  | configuration => "CONFIGURATION"
  | serialization => "SERIALIZATION"
  | internal => "INTERNAL"

def name : Kind → String
  | malformed => "Malformed"
  | invalidSignature => "InvalidSignature"
  | expired => "Expired"
  | userNotFound => "UserNotFound"
  | incorrectAnswer => "IncorrectAnswer"
  | tooManyRequests => "TooManyRequests"
  | unavailable => "Unavailable"
  | authentication => "Authentication"
  | validation => "Validation"
  | conflict => "Conflict"
  | signing => "Signing"
  | cache => "Cache"
  | configuration => "Configuration"
  | serialization => "Serialization"
  | internal => "Internal"

def ofName? (text : String) : Option Kind :=
  all.find? fun kind => kind.name == text

def ofCode? (text : String) : Option Kind :=
  all.find? fun kind => kind.code == text

theorem ofCode?_code (kind : Kind) : ofCode? kind.code = some kind := by
  cases kind <;> decide

theorem ofName?_name (kind : Kind) : ofName? kind.name = some kind := by
  cases kind <;> decide

/-- The presented token must not be trusted. -/
def unauthorized : Kind → Bool
  | malformed | invalidSignature | expired => true
  | _ => false

def retryable : Kind → Bool
  | unavailable | cache => true
  | _ => false

end Kind

inductive Failure
  | malformedToken
  /-- A readable, signed token of the other kind. -/
  | wrongTokenKind (expected : TokenKind)
  | badSignature
  | tokenExpired
  /-- An expiry beyond the last instant. -/
  | lifetimeOutOfRange (hours : Nat)
  | missingAuthorization
  | userNotFound
  | emailTaken
  | invalidCredentials
  | userStoreLate
  | captchaRequired
  | captchaExpired
  | captchaUnknown
  | captchaWrong
  | captchaStoreDown (cause : String)
  | captchaStoreLate
  | captchaImageEmpty
  | tooManyRequests
  /-- Rules that a request's fields break, one message each. -/
  | invalidFields (messages : List String)
  /-- A request body that is not announced as JSON. -/
  | bodyNotJson
  | bodyTooLarge
  | bodySyntax (detail : String)
  | bodyShape (detail : String)
  | secretsEmpty
  | expiryZero
  | expiryTooLong (limit : Nat)
  | rateZero
  | redisTimeoutZero
  | configUnreadable (detail : String)
  | configShape (detail : String)
  | configRejected (detail : String)
  | unknownCacheProvider (name : String)
  | invalidRedisUrl (target : String)
  | redisUnreachable (target : String)
  | redisSilent (target : String) (milliseconds : Nat)
  | redisOddPong (target : String)
  | redisFailed (command detail : String)
  | redisLate (command : String)
  | passwordHashFormat (detail : String)
  | passwordVerification (detail : String)
  | unreadableJson (detail : String)
  | inputOutput (detail : String)
  | reported (kind : Kind) (message : String) (cause : Option String)
  deriving DecidableEq, Repr

namespace Failure

def kind : Failure → Kind
  | malformedToken | wrongTokenKind _ | missingAuthorization => .malformed
  | badSignature => .invalidSignature
  | tokenExpired | captchaExpired | captchaUnknown => .expired
  | lifetimeOutOfRange _ => .signing
  | userNotFound => .userNotFound
  | emailTaken => .conflict
  | invalidCredentials => .authentication
  | userStoreLate | captchaStoreDown _ | captchaStoreLate => .unavailable
  | captchaWrong => .incorrectAnswer
  | tooManyRequests => .tooManyRequests
  | captchaRequired | invalidFields _ | bodyNotJson | bodyTooLarge | bodySyntax _ | bodyShape _ =>
    .validation
  | captchaImageEmpty | secretsEmpty | expiryZero | expiryTooLong _ | rateZero | redisTimeoutZero
  | configUnreadable _ | configShape _ | configRejected _ | unknownCacheProvider _ =>
    .configuration
  | invalidRedisUrl _ | redisUnreachable _ | redisSilent _ _ | redisOddPong _ | redisFailed _ _
  | redisLate _ => .cache
  | passwordHashFormat _ | passwordVerification _ | inputOutput _ => .internal
  | unreadableJson _ => .serialization
  | reported kind _ _ => kind

def message : Failure → String
  | malformedToken => "Malformed token"
  | wrongTokenKind expected => "Expected a " ++ expected.label ++ " token"
  | badSignature => "Invalid token signature"
  | tokenExpired => "Token is expired"
  | lifetimeOutOfRange hours =>
    "Token lifetime of " ++ toString hours ++ " hours is out of range"
  | missingAuthorization => "Missing Authorization header"
  | userNotFound => "User not found"
  | emailTaken => "User already exists with the given email"
  | invalidCredentials => "Invalid credentials"
  | userStoreLate => "User store did not respond in time"
  | captchaRequired => "Captcha answer is required"
  | captchaExpired => "Captcha has expired"
  | captchaUnknown => "Captcha session not found or expired"
  | captchaWrong => "Incorrect captcha answer"
  | captchaStoreDown _ => "Captcha store unavailable"
  | captchaStoreLate => "Captcha store timed out"
  | captchaImageEmpty => "Captcha image size must be positive"
  | tooManyRequests => "Too many requests"
  | invalidFields messages => String.intercalate "\n" messages
  | bodyNotJson => "Expected request with `Content-Type: application/json`"
  | bodyTooLarge => "Failed to buffer the request body: length limit exceeded"
  | bodySyntax detail => "Failed to parse the request body as JSON: " ++ detail
  | bodyShape detail =>
    "Failed to deserialize the JSON body into the target type: " ++ detail
  | secretsEmpty => "Token secrets must not be empty"
  | expiryZero => "Token expiry hours must be positive"
  | expiryTooLong limit => "Token expiry hours must not exceed " ++ toString limit
  | rateZero => "rate_limit.requests_per_minute must be positive"
  | redisTimeoutZero => "Redis timeouts must be positive"
  | configUnreadable detail => "Failed to build config: " ++ detail
  | configShape detail => "Failed to deserialize config: " ++ detail
  | configRejected detail => "Configuration error: " ++ detail
  | unknownCacheProvider name =>
    "Unknown cache provider: '" ++ name ++ "'. Supported: memory, redis"
  | invalidRedisUrl target => "Invalid Redis URL " ++ target
  | redisUnreachable target => "Failed to connect to Redis at " ++ target
  | redisSilent target milliseconds =>
    "Redis at " ++ target ++ " did not accept a connection within " ++ toString milliseconds ++
      "ms"
  | redisOddPong target => "Redis at " ++ target ++ " answered PING unexpectedly"
  | redisFailed command detail => "Redis " ++ command ++ " failed: " ++ detail
  | redisLate command => "Redis " ++ command ++ " timed out"
  | passwordHashFormat detail => "Invalid password hash format: " ++ detail
  | passwordVerification detail => "Password verification failed: " ++ detail
  | unreadableJson detail => "JSON serialization error: " ++ detail
  | inputOutput detail => "I/O error: " ++ detail
  | reported _ message _ => message

/-- The underlying error of another part, where one is kept. -/
def cause? : Failure → Option String
  | captchaStoreDown cause => some cause
  | configRejected detail | unreadableJson detail | inputOutput detail => some detail
  | reported _ _ cause => cause
  | _ => none

/-- A copy for reporting: the same kind and message, without the underlying error. -/
def withoutCause (failure : Failure) : Failure :=
  .reported failure.kind failure.message none

def display (failure : Failure) : String :=
  failure.kind.code ++ ": " ++ failure.message

@[simp] theorem kind_withoutCause (failure : Failure) : failure.withoutCause.kind = failure.kind :=
  rfl

@[simp] theorem display_withoutCause (failure : Failure) :
    failure.withoutCause.display = failure.display := rfl

end Failure

inductive Crash
  | emptySecret
  | divisionByZero
  deriving DecidableEq, Repr

def Crash.message : Crash → String
  | .emptySecret => "token secret must not be empty"
  | .divisionByZero => "attempt to divide by zero"

/-- Why there is no result: an answerable failure or a crash. -/
inductive Fault
  | failure (cause : Failure)
  | crash (cause : Crash)
  deriving DecidableEq, Repr

abbrev Outcome (α : Type) := Except Fault α

/-- A result that could only fail. -/
def Outcome.ofExcept {α : Type} : Except Failure α → Outcome α
  | .ok value => .ok value
  | .error failure => .error (.failure failure)

def fail {α : Type} (failure : Failure) : Outcome α :=
  .error (.failure failure)

end Gatehouse

import Gatehouse.Config.Value
import Gatehouse.Failure
import Gatehouse.Text.LowerCase
import Gatehouse.Throttle.Gate
import Gatehouse.Token.Pair

/-!
# Settings

All settings with their built-in values, how they are read from a tree, and the
rules that a configuration has to keep.  A tree read strictly has every setting
in its own type; a tree read leniently may give a number as a text, a text as a
number, and so on.
-/

set_option autoImplicit false

namespace Gatehouse.Config

/-- Which origins may call from a browser, and how long they may remember it. -/
structure Cors where
  allowedOrigins : List String := ["*"]
  maxAgeSeconds : Nat := 3600
  deriving DecidableEq, Repr

structure Server where
  host : String := "0.0.0.0"
  port : Nat := 8080
  /-- Limit for each call of the user store or the cache. -/
  contextTimeoutMs : Nat := 2000
  /-- Take the first forwarded address for the client's identity. -/
  trustForwardedFor : Bool := false
  cors : Cors := ⟨["*"], 3600⟩
  deriving DecidableEq, Repr

structure Auth where
  accessTokenSecret : String := "CHANGE_ME_ACCESS_SECRET"
  refreshTokenSecret : String := "CHANGE_ME_REFRESH_SECRET"
  accessTokenExpiryHours : Nat := 2
  refreshTokenExpiryHours : Nat := 168
  tokenLabel : String := "Bearer "
  deriving DecidableEq, Repr

structure Redis where
  url : String := "redis://localhost:6379"
  keyLabel : String := "tollgate:"
  connectTimeoutMs : Nat := 2000
  commandTimeoutMs : Nat := 1000
  deriving DecidableEq, Repr

structure MemoryCache where
  maxCapacity : Nat := 10000
  deriving DecidableEq, Repr

structure CacheSettings where
  provider : String := "memory"
  redis : Redis := ⟨"redis://localhost:6379", "tollgate:", 2000, 1000⟩
  memory : MemoryCache := ⟨10000⟩
  deriving DecidableEq, Repr

structure RateLimit where
  enabled : Bool := true
  backend : Throttle.Backend := .memory
  requestsPerMinute : Nat := 60
  sweepIntervalSeconds : Nat := 60
  staleAfterSeconds : Nat := 600
  deriving DecidableEq, Repr

structure CaptchaSettings where
  requiredForLogin : Bool := true
  cookieName : String := "captcha_session"
  imageWidth : Nat := 200
  imageHeight : Nat := 80
  deriving DecidableEq, Repr

structure Logging where
  level : String := "info"
  format : String := "json"
  deriving DecidableEq, Repr

structure Settings where
  server : Server := { }
  auth : Auth := { }
  cache : CacheSettings := { }
  rateLimit : RateLimit := { }
  captcha : CaptchaSettings := { }
  logging : Logging := { }
  deriving DecidableEq, Repr

/-! ## Reading -/

/-- How exactly the types of a tree have to fit. -/
inductive Manner
  | strict
  | lenient
  deriving DecidableEq, Repr

/-- Reads a value; without one, there is none of the type asked for. -/
abbrev Reader (α : Type) := Manner → Value → Option α

def readText : Reader String := fun manner value =>
  match manner, value with
  | _, .text text => some text
  | .lenient, .flag flag => some (toString flag)
  | .lenient, .integer number => some (toString number)
  | .lenient, .float number => some (Shortest.plainText number)
  | _, _ => none

def flagWord? (text : String) : Option Bool :=
  let word := Text.lowerCase text
  if ["1", "true", "on", "yes"].contains word then some true
  else if ["0", "false", "off", "no"].contains word then some false
  else none

def readFlag : Reader Bool := fun manner value =>
  match manner, value with
  | _, .flag flag => some flag
  | .lenient, .integer number => some (number != 0)
  | .lenient, .float number => some (number != 0.0)
  | .lenient, .text text => flagWord? text
  | _, _ => none

/-- A text that stands for a number that is not negative. -/
def numberText? (text : String) : Option Nat :=
  let word := Text.lowerCase text
  if ["true", "on", "yes"].contains word then some 1
  else if ["false", "off", "no"].contains word then some 0
  else
    match text.toList with
    | '+' :: digits => Decimal.natural? digits
    | digits => Decimal.natural? digits

/-- A number that is not negative and does not exceed a limit. -/
def readNumber (most : Nat) : Reader Nat := fun manner value =>
  let found :=
    match manner, value with
    | _, .integer number => if 0 ≤ number then some number.toNat else none
    | .lenient, .float number => some number.round.toUInt64.toNat
    | .lenient, .flag flag => some flag.toNat
    | .lenient, .text text => numberText? text
    | _, _ => none
  found.filter fun number => number ≤ most

def max16 : Nat := 65535
def max32 : Nat := 4294967295
def max64 : Nat := 18446744073709551615

def readTexts : Reader (List String) := fun manner value =>
  match value with
  | .list items => items.mapM (readText manner)
  | _ => none

/-- The name of a backend; a table may stand for it whose only key it is. -/
def readBackend : Reader Throttle.Backend := fun _ value =>
  match value with
  | .text name => Throttle.Backend.ofName? name
  | .table [(name, .null)] => Throttle.Backend.ofName? name
  | _ => none

/-- The values given for the fields of a record: by name, or in order. -/
def entriesOf? (names : List String) (manner : Manner) (value : Value) :
    Option (List (String × Value)) :=
  match value with
  | .table entries => some entries
  | .list items =>
    if manner = .lenient ∨ items.length ≤ names.length then some (names.zip items) else none
  | _ => none

def field {α : Type} (manner : Manner) (entries : List (String × Value)) (name : String)
    (reader : Reader α) (builtIn : α) : Option α :=
  match entries.lookup name with
  | some value => reader manner value
  | none => some builtIn

def readCors : Reader Cors := fun manner value => do
  let entries ← entriesOf? ["allowed_origins", "max_age_seconds"] manner value
  let base : Cors := { }
  some
    { allowedOrigins := ← field manner entries "allowed_origins" readTexts base.allowedOrigins
      maxAgeSeconds := ←
        field manner entries "max_age_seconds" (readNumber max64) base.maxAgeSeconds }

def readServer : Reader Server := fun manner value => do
  let entries ←
    entriesOf? ["host", "port", "context_timeout_ms", "trust_forwarded_for", "cors"] manner value
  let base : Server := { }
  some
    { host := ← field manner entries "host" readText base.host
      port := ← field manner entries "port" (readNumber max16) base.port
      contextTimeoutMs := ←
        field manner entries "context_timeout_ms" (readNumber max64) base.contextTimeoutMs
      trustForwardedFor := ←
        field manner entries "trust_forwarded_for" readFlag base.trustForwardedFor
      cors := ← field manner entries "cors" readCors base.cors }

def readAuth : Reader Auth := fun manner value => do
  let entries ←
    entriesOf?
      ["access_token_secret", "refresh_token_secret", "access_token_expiry_hours",
        "refresh_token_expiry_hours", "token_prefix"] manner value
  let base : Auth := { }
  some
    { accessTokenSecret := ←
        field manner entries "access_token_secret" readText base.accessTokenSecret
      refreshTokenSecret := ←
        field manner entries "refresh_token_secret" readText base.refreshTokenSecret
      accessTokenExpiryHours := ←
        field manner entries "access_token_expiry_hours" (readNumber max32)
          base.accessTokenExpiryHours
      refreshTokenExpiryHours := ←
        field manner entries "refresh_token_expiry_hours" (readNumber max32)
          base.refreshTokenExpiryHours
      tokenLabel := ← field manner entries "token_prefix" readText base.tokenLabel }

def readRedis : Reader Redis := fun manner value => do
  let entries ←
    entriesOf? ["url", "key_prefix", "connect_timeout_ms", "command_timeout_ms"] manner value
  let base : Redis := { }
  some
    { url := ← field manner entries "url" readText base.url
      keyLabel := ← field manner entries "key_prefix" readText base.keyLabel
      connectTimeoutMs := ←
        field manner entries "connect_timeout_ms" (readNumber max64) base.connectTimeoutMs
      commandTimeoutMs := ←
        field manner entries "command_timeout_ms" (readNumber max64) base.commandTimeoutMs }

def readMemoryCache : Reader MemoryCache := fun manner value => do
  let entries ← entriesOf? ["max_capacity"] manner value
  let base : MemoryCache := { }
  some
    { maxCapacity := ←
        field manner entries "max_capacity" (readNumber max64) base.maxCapacity }

def readCache : Reader CacheSettings := fun manner value => do
  let entries ← entriesOf? ["provider", "redis", "memory"] manner value
  let base : CacheSettings := { }
  some
    { provider := ← field manner entries "provider" readText base.provider
      redis := ← field manner entries "redis" readRedis base.redis
      memory := ← field manner entries "memory" readMemoryCache base.memory }

def readRateLimit : Reader RateLimit := fun manner value => do
  let entries ←
    entriesOf?
      ["enabled", "backend", "requests_per_minute", "sweep_interval_seconds",
        "stale_after_seconds"] manner value
  let base : RateLimit := { }
  some
    { enabled := ← field manner entries "enabled" readFlag base.enabled
      backend := ← field manner entries "backend" readBackend base.backend
      requestsPerMinute := ←
        field manner entries "requests_per_minute" (readNumber max32) base.requestsPerMinute
      sweepIntervalSeconds := ←
        field manner entries "sweep_interval_seconds" (readNumber max64)
          base.sweepIntervalSeconds
      staleAfterSeconds := ←
        field manner entries "stale_after_seconds" (readNumber max64) base.staleAfterSeconds }

def readCaptcha : Reader CaptchaSettings := fun manner value => do
  let entries ←
    entriesOf? ["required_for_login", "cookie_name", "image_width", "image_height"] manner value
  let base : CaptchaSettings := { }
  some
    { requiredForLogin := ←
        field manner entries "required_for_login" readFlag base.requiredForLogin
      cookieName := ← field manner entries "cookie_name" readText base.cookieName
      imageWidth := ← field manner entries "image_width" (readNumber max32) base.imageWidth
      imageHeight := ← field manner entries "image_height" (readNumber max32) base.imageHeight }

def readLogging : Reader Logging := fun manner value => do
  let entries ← entriesOf? ["level", "format"] manner value
  let base : Logging := { }
  some
    { level := ← field manner entries "level" readText base.level
      format := ← field manner entries "format" readText base.format }

def readSettings : Reader Settings := fun manner value => do
  let entries ←
    entriesOf? ["server", "auth", "cache", "rate_limit", "captcha", "logging"] manner value
  let base : Settings := { }
  some
    { server := ← field manner entries "server" readServer base.server
      auth := ← field manner entries "auth" readAuth base.auth
      cache := ← field manner entries "cache" readCache base.cache
      rateLimit := ← field manner entries "rate_limit" readRateLimit base.rateLimit
      captcha := ← field manner entries "captcha" readCaptcha base.captcha
      logging := ← field manner entries "logging" readLogging base.logging }

/-! ## Writing -/

def Settings.write (settings : Settings) : Json :=
  let server := settings.server
  let auth := settings.auth
  let cache := settings.cache
  let rateLimit := settings.rateLimit
  let captcha := settings.captcha
  .obj
    [("server", .obj
      [("host", .str server.host), ("port", .int server.port),
        ("context_timeout_ms", .int server.contextTimeoutMs),
        ("trust_forwarded_for", .bool server.trustForwardedFor),
        ("cors", .obj
          [("allowed_origins", .arr (server.cors.allowedOrigins.map .str)),
            ("max_age_seconds", .int server.cors.maxAgeSeconds)])]),
      ("auth", .obj
        [("access_token_secret", .str auth.accessTokenSecret),
          ("refresh_token_secret", .str auth.refreshTokenSecret),
          ("access_token_expiry_hours", .int auth.accessTokenExpiryHours),
          ("refresh_token_expiry_hours", .int auth.refreshTokenExpiryHours),
          ("token_prefix", .str auth.tokenLabel)]),
      ("cache", .obj
        [("provider", .str cache.provider),
          ("redis", .obj
            [("url", .str cache.redis.url), ("key_prefix", .str cache.redis.keyLabel),
              ("connect_timeout_ms", .int cache.redis.connectTimeoutMs),
              ("command_timeout_ms", .int cache.redis.commandTimeoutMs)]),
          ("memory", .obj [("max_capacity", .int cache.memory.maxCapacity)])]),
      ("rate_limit", .obj
        [("enabled", .bool rateLimit.enabled), ("backend", .str rateLimit.backend.name),
          ("requests_per_minute", .int rateLimit.requestsPerMinute),
          ("sweep_interval_seconds", .int rateLimit.sweepIntervalSeconds),
          ("stale_after_seconds", .int rateLimit.staleAfterSeconds)]),
      ("captcha", .obj
        [("required_for_login", .bool captcha.requiredForLogin),
          ("cookie_name", .str captcha.cookieName), ("image_width", .int captcha.imageWidth),
          ("image_height", .int captcha.imageHeight)]),
      ("logging", .obj
        [("level", .str settings.logging.level), ("format", .str settings.logging.format)])]

/-! ## Rules -/

/-- Longest lifetime of a token: ten years, in hours. -/
def maxExpiryHours : Nat := 24 * 365 * 10

/-- Rejects settings that tokens, throttling or the cache cannot work with. -/
def Settings.validate (settings : Settings) : Except Failure Unit :=
  let auth := settings.auth
  if auth.accessTokenSecret = "" ∨ auth.refreshTokenSecret = "" then .error .secretsEmpty
  else if auth.accessTokenExpiryHours = 0 ∨ auth.refreshTokenExpiryHours = 0 then
    .error .expiryZero
  else if auth.accessTokenExpiryHours > maxExpiryHours ∨
      auth.refreshTokenExpiryHours > maxExpiryHours then
    .error (.expiryTooLong maxExpiryHours)
  else if settings.rateLimit.requestsPerMinute = 0 then .error .rateZero
  else if settings.cache.redis.connectTimeoutMs = 0 ∨ settings.cache.redis.commandTimeoutMs = 0 then
    .error .redisTimeoutZero
  else .ok ()

def Auth.tokens (auth : Auth) : TokenSettings :=
  ⟨auth.accessTokenSecret, auth.refreshTokenSecret, auth.accessTokenExpiryHours,
    auth.refreshTokenExpiryHours⟩

end Gatehouse.Config

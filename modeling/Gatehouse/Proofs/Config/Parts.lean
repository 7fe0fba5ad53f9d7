import Gatehouse.Proofs.Config.Trees

/-!
# The parts of the settings

Each part of the settings, a whole section or a single setting, has a place in
the tree that settings are read from.  Read settings have in each part what its
reader makes of the value in that place, or the built-in value where there is
none.
-/

set_option autoImplicit false

namespace Gatehouse.Config

/-! ## Records read field by field -/

/-- The record read from a table has its fields read each by itself.  Only a table or an array is
read as a record. -/
def ReadByField {β : Type} (record : Reader β) (fields : Value.Entries → β → Prop) : Prop :=
  ∀ value result, record .lenient value = some result → value.shape ≠ .array →
    ∃ entries, value = .table entries ∧ fields entries result

theorem table_of_entriesOf? {names : List String} {value : Value} {entries : Value.Entries}
    (found : entriesOf? names .lenient value = some entries) (shape : value.shape ≠ .array) :
    value = .table entries := by
  cases value with
  | table known =>
      cases found
      rfl
  | list items => exact absurd rfl shape
  | _ => cases found

/-- The field of a record, read from an entry or built in. -/
abbrev Field {α β : Type} (name : String) (reader : Reader α) (get : β → α) (builtIn : β)
    (entries : Value.Entries) (record : β) : Prop :=
  field .lenient entries name reader (get builtIn) = some (get record)

structure Cors.ReadFrom (entries : Value.Entries) (cors : Cors) : Prop where
  allowedOrigins : Field "allowed_origins" readTexts Cors.allowedOrigins { } entries cors
  maxAgeSeconds : Field "max_age_seconds" (readNumber max64) Cors.maxAgeSeconds { } entries cors

theorem cors_readByField : ReadByField readCors Cors.ReadFrom := by
  intro value cors read shape
  simp only [readCors, Option.bind_eq_bind, Option.bind_eq_some_iff, Option.some.injEq] at read
  obtain ⟨entries, found, _, allowedOrigins, _, maxAgeSeconds, rfl⟩ := read
  exact ⟨entries, table_of_entriesOf? found shape, ⟨allowedOrigins, maxAgeSeconds⟩⟩

structure Server.ReadFrom (entries : Value.Entries) (server : Server) : Prop where
  host : Field "host" readText Server.host { } entries server
  port : Field "port" (readNumber max16) Server.port { } entries server
  contextTimeoutMs :
    Field "context_timeout_ms" (readNumber max64) Server.contextTimeoutMs { } entries server
  trustForwardedFor :
    Field "trust_forwarded_for" readFlag Server.trustForwardedFor { } entries server
  cors : Field "cors" readCors Server.cors { } entries server

theorem server_readByField : ReadByField readServer Server.ReadFrom := by
  intro value server read shape
  simp only [readServer, Option.bind_eq_bind, Option.bind_eq_some_iff, Option.some.injEq] at read
  obtain ⟨entries, found, _, host, _, port, _, contextTimeoutMs, _, trustForwardedFor, _, cors,
    rfl⟩ := read
  exact ⟨entries, table_of_entriesOf? found shape,
    ⟨host, port, contextTimeoutMs, trustForwardedFor, cors⟩⟩

structure Auth.ReadFrom (entries : Value.Entries) (auth : Auth) : Prop where
  accessTokenSecret : Field "access_token_secret" readText Auth.accessTokenSecret { } entries auth
  refreshTokenSecret :
    Field "refresh_token_secret" readText Auth.refreshTokenSecret { } entries auth
  accessTokenExpiryHours :
    Field "access_token_expiry_hours" (readNumber max32) Auth.accessTokenExpiryHours { } entries
      auth
  refreshTokenExpiryHours :
    Field "refresh_token_expiry_hours" (readNumber max32) Auth.refreshTokenExpiryHours { } entries
      auth
  tokenLabel : Field "token_prefix" readText Auth.tokenLabel { } entries auth

theorem auth_readByField : ReadByField readAuth Auth.ReadFrom := by
  intro value auth read shape
  simp only [readAuth, Option.bind_eq_bind, Option.bind_eq_some_iff, Option.some.injEq] at read
  obtain ⟨entries, found, _, accessTokenSecret, _, refreshTokenSecret, _, accessTokenExpiryHours,
    _, refreshTokenExpiryHours, _, tokenLabel, rfl⟩ := read
  exact ⟨entries, table_of_entriesOf? found shape,
    ⟨accessTokenSecret, refreshTokenSecret, accessTokenExpiryHours, refreshTokenExpiryHours,
      tokenLabel⟩⟩

structure Redis.ReadFrom (entries : Value.Entries) (redis : Redis) : Prop where
  url : Field "url" readText Redis.url { } entries redis
  keyLabel : Field "key_prefix" readText Redis.keyLabel { } entries redis
  connectTimeoutMs :
    Field "connect_timeout_ms" (readNumber max64) Redis.connectTimeoutMs { } entries redis
  commandTimeoutMs :
    Field "command_timeout_ms" (readNumber max64) Redis.commandTimeoutMs { } entries redis

theorem redis_readByField : ReadByField readRedis Redis.ReadFrom := by
  intro value redis read shape
  simp only [readRedis, Option.bind_eq_bind, Option.bind_eq_some_iff, Option.some.injEq] at read
  obtain ⟨entries, found, _, url, _, keyLabel, _, connectTimeoutMs, _, commandTimeoutMs, rfl⟩ :=
    read
  exact ⟨entries, table_of_entriesOf? found shape,
    ⟨url, keyLabel, connectTimeoutMs, commandTimeoutMs⟩⟩

structure MemoryCache.ReadFrom (entries : Value.Entries) (memory : MemoryCache) : Prop where
  maxCapacity : Field "max_capacity" (readNumber max64) MemoryCache.maxCapacity { } entries memory

theorem memory_readByField : ReadByField readMemoryCache MemoryCache.ReadFrom := by
  intro value memory read shape
  simp only [readMemoryCache, Option.bind_eq_bind, Option.bind_eq_some_iff,
    Option.some.injEq] at read
  obtain ⟨entries, found, _, maxCapacity, rfl⟩ := read
  exact ⟨entries, table_of_entriesOf? found shape, ⟨maxCapacity⟩⟩

structure CacheSettings.ReadFrom (entries : Value.Entries) (cache : CacheSettings) : Prop where
  provider : Field "provider" readText CacheSettings.provider { } entries cache
  redis : Field "redis" readRedis CacheSettings.redis { } entries cache
  memory : Field "memory" readMemoryCache CacheSettings.memory { } entries cache

theorem cache_readByField : ReadByField readCache CacheSettings.ReadFrom := by
  intro value cache read shape
  simp only [readCache, Option.bind_eq_bind, Option.bind_eq_some_iff, Option.some.injEq] at read
  obtain ⟨entries, found, _, provider, _, redis, _, memory, rfl⟩ := read
  exact ⟨entries, table_of_entriesOf? found shape, ⟨provider, redis, memory⟩⟩

structure RateLimit.ReadFrom (entries : Value.Entries) (rateLimit : RateLimit) : Prop where
  enabled : Field "enabled" readFlag RateLimit.enabled { } entries rateLimit
  backend : Field "backend" readBackend RateLimit.backend { } entries rateLimit
  requestsPerMinute :
    Field "requests_per_minute" (readNumber max32) RateLimit.requestsPerMinute { } entries rateLimit
  sweepIntervalSeconds :
    Field "sweep_interval_seconds" (readNumber max64) RateLimit.sweepIntervalSeconds { } entries
      rateLimit
  staleAfterSeconds :
    Field "stale_after_seconds" (readNumber max64) RateLimit.staleAfterSeconds { } entries rateLimit

theorem rateLimit_readByField : ReadByField readRateLimit RateLimit.ReadFrom := by
  intro value rateLimit read shape
  simp only [readRateLimit, Option.bind_eq_bind, Option.bind_eq_some_iff, Option.some.injEq] at read
  obtain ⟨entries, found, _, enabled, _, backend, _, requestsPerMinute, _, sweepIntervalSeconds,
    _, staleAfterSeconds, rfl⟩ := read
  exact ⟨entries, table_of_entriesOf? found shape,
    ⟨enabled, backend, requestsPerMinute, sweepIntervalSeconds, staleAfterSeconds⟩⟩

structure CaptchaSettings.ReadFrom (entries : Value.Entries) (captcha : CaptchaSettings) :
    Prop where
  requiredForLogin :
    Field "required_for_login" readFlag CaptchaSettings.requiredForLogin { } entries captcha
  cookieName : Field "cookie_name" readText CaptchaSettings.cookieName { } entries captcha
  imageWidth : Field "image_width" (readNumber max32) CaptchaSettings.imageWidth { } entries captcha
  imageHeight :
    Field "image_height" (readNumber max32) CaptchaSettings.imageHeight { } entries captcha

theorem captcha_readByField : ReadByField readCaptcha CaptchaSettings.ReadFrom := by
  intro value captcha read shape
  simp only [readCaptcha, Option.bind_eq_bind, Option.bind_eq_some_iff, Option.some.injEq] at read
  obtain ⟨entries, found, _, requiredForLogin, _, cookieName, _, imageWidth, _, imageHeight, rfl⟩
    := read
  exact ⟨entries, table_of_entriesOf? found shape,
    ⟨requiredForLogin, cookieName, imageWidth, imageHeight⟩⟩

structure Logging.ReadFrom (entries : Value.Entries) (logging : Logging) : Prop where
  level : Field "level" readText Logging.level { } entries logging
  format : Field "format" readText Logging.format { } entries logging

theorem logging_readByField : ReadByField readLogging Logging.ReadFrom := by
  intro value logging read shape
  simp only [readLogging, Option.bind_eq_bind, Option.bind_eq_some_iff, Option.some.injEq] at read
  obtain ⟨entries, found, _, level, _, format, rfl⟩ := read
  exact ⟨entries, table_of_entriesOf? found shape, ⟨level, format⟩⟩

structure Settings.ReadFrom (entries : Value.Entries) (settings : Settings) : Prop where
  server : Field "server" readServer Settings.server { } entries settings
  auth : Field "auth" readAuth Settings.auth { } entries settings
  cache : Field "cache" readCache Settings.cache { } entries settings
  rateLimit : Field "rate_limit" readRateLimit Settings.rateLimit { } entries settings
  captcha : Field "captcha" readCaptcha Settings.captcha { } entries settings
  logging : Field "logging" readLogging Settings.logging { } entries settings

theorem settings_readByField : ReadByField readSettings Settings.ReadFrom := by
  intro value settings read shape
  simp only [readSettings, Option.bind_eq_bind, Option.bind_eq_some_iff, Option.some.injEq] at read
  obtain ⟨entries, found, _, server, _, auth, _, cache, _, rateLimit, _, captcha, _, logging, rfl⟩
    := read
  exact ⟨entries, table_of_entriesOf? found shape,
    ⟨server, auth, cache, rateLimit, captcha, logging⟩⟩

/-! ## Places -/

/-- Where a part of the settings stands in a tree, how it is read, and what it is in the
settings. -/
structure Part (α : Type) where
  path : List String
  reader : Reader α
  get : Settings → α

namespace Part

variable {α β : Type}

def builtIn (part : Part α) : α :=
  part.get { }

def field (part : Part β) (name : String) (reader : Reader α) (get : β → α) : Part α :=
  ⟨part.path ++ [name], reader, fun settings => get (part.get settings)⟩

def whole : Part Settings :=
  ⟨[], readSettings, id⟩

def server : Part Server := whole.field "server" readServer Settings.server
def cors : Part Cors := server.field "cors" readCors Server.cors
def auth : Part Auth := whole.field "auth" readAuth Settings.auth
def cache : Part CacheSettings := whole.field "cache" readCache Settings.cache
def redis : Part Redis := cache.field "redis" readRedis CacheSettings.redis
def memory : Part MemoryCache := cache.field "memory" readMemoryCache CacheSettings.memory
def rateLimit : Part RateLimit := whole.field "rate_limit" readRateLimit Settings.rateLimit
def captcha : Part CaptchaSettings := whole.field "captcha" readCaptcha Settings.captcha
def logging : Part Logging := whole.field "logging" readLogging Settings.logging

/-- The settings that are texts. -/
def texts : List (Part String) :=
  [server.field "host" readText Server.host,
    auth.field "access_token_secret" readText Auth.accessTokenSecret,
    auth.field "refresh_token_secret" readText Auth.refreshTokenSecret,
    auth.field "token_prefix" readText Auth.tokenLabel,
    cache.field "provider" readText CacheSettings.provider,
    redis.field "url" readText Redis.url,
    redis.field "key_prefix" readText Redis.keyLabel,
    captcha.field "cookie_name" readText CaptchaSettings.cookieName,
    logging.field "level" readText Logging.level,
    logging.field "format" readText Logging.format]

/-- The settings that are numbers. -/
def numbers : List (Part Nat) :=
  [server.field "port" (readNumber max16) Server.port,
    server.field "context_timeout_ms" (readNumber max64) Server.contextTimeoutMs,
    cors.field "max_age_seconds" (readNumber max64) Cors.maxAgeSeconds,
    auth.field "access_token_expiry_hours" (readNumber max32) Auth.accessTokenExpiryHours,
    auth.field "refresh_token_expiry_hours" (readNumber max32) Auth.refreshTokenExpiryHours,
    redis.field "connect_timeout_ms" (readNumber max64) Redis.connectTimeoutMs,
    redis.field "command_timeout_ms" (readNumber max64) Redis.commandTimeoutMs,
    memory.field "max_capacity" (readNumber max64) MemoryCache.maxCapacity,
    rateLimit.field "requests_per_minute" (readNumber max32) RateLimit.requestsPerMinute,
    rateLimit.field "sweep_interval_seconds" (readNumber max64) RateLimit.sweepIntervalSeconds,
    rateLimit.field "stale_after_seconds" (readNumber max64) RateLimit.staleAfterSeconds,
    captcha.field "image_width" (readNumber max32) CaptchaSettings.imageWidth,
    captcha.field "image_height" (readNumber max32) CaptchaSettings.imageHeight]

/-- The settings that are true or false. -/
def flags : List (Part Bool) :=
  [server.field "trust_forwarded_for" readFlag Server.trustForwardedFor,
    rateLimit.field "enabled" readFlag RateLimit.enabled,
    captcha.field "required_for_login" readFlag CaptchaSettings.requiredForLogin]

def backend : Part Throttle.Backend := rateLimit.field "backend" readBackend RateLimit.backend

def origins : Part (List String) := cors.field "allowed_origins" readTexts Cors.allowedOrigins

/-- The single settings. -/
def leaves : List (Sigma Part) :=
  texts.map (Sigma.mk _) ++ numbers.map (Sigma.mk _) ++ flags.map (Sigma.mk _) ++
    [⟨_, backend⟩, ⟨_, origins⟩]

/-- The sections, which hold settings and other sections. -/
def sections : List (Sigma Part) :=
  [⟨_, server⟩, ⟨_, cors⟩, ⟨_, auth⟩, ⟨_, cache⟩, ⟨_, redis⟩, ⟨_, memory⟩, ⟨_, rateLimit⟩,
    ⟨_, captcha⟩, ⟨_, logging⟩]

/-- The single settings make up all settings. -/
theorem eq_of_leaves {first second : Settings}
    (same : ∀ leaf ∈ leaves, leaf.2.get first = leaf.2.get second) : first = second := by
  obtain ⟨⟨host, port, timeout, trust, ⟨origins, age⟩⟩,
    ⟨access, refresh, accessHours, refreshHours, label⟩,
    ⟨provider, ⟨url, keyLabel, connect, command⟩, ⟨capacity⟩⟩,
    ⟨enabled, backend, rate, sweep, stale⟩, ⟨required, cookie, width, height⟩, ⟨level, format⟩⟩ :=
    first
  simp only [leaves, texts, numbers, flags, List.map_cons, List.map_nil, List.cons_append,
    List.nil_append, List.forall_mem_cons] at same
  obtain ⟨rfl, rfl, rfl, rfl, rfl, rfl, rfl, rfl, rfl, rfl, rfl, rfl, rfl, rfl, rfl, rfl, rfl, rfl,
    rfl, rfl, rfl, rfl, rfl, rfl, rfl, rfl, rfl, rfl, _⟩ := same
  rfl

theorem reader_of_mem_texts : ∀ part ∈ texts, part.reader = readText := by
  simp only [texts, List.forall_mem_cons, List.not_mem_nil, false_imp_iff, implies_true, and_true]
  exact ⟨rfl, rfl, rfl, rfl, rfl, rfl, rfl, rfl, rfl, rfl⟩

theorem path_ne_nil : ∀ part ∈ leaves ++ sections, part.2.path ≠ [] := by
  decide

/-! ## What is read -/

/-- No array stands along a path. -/
def Open (path : List String) (tree : Value) : Prop :=
  ∀ above below, path = above ++ below → ∀ value, tree.at? above = some value →
    value.shape ≠ .array

/-- Read settings have in this part what stands in its place, or what is built in. -/
def Sound (part : Part α) : Prop :=
  ∀ tree settings, readSettings .lenient tree = some settings →
    (∀ value, tree.at? part.path = some value →
      part.reader .lenient value = some (part.get settings)) ∧
    (tree.at? part.path = none → Open part.path tree → part.get settings = part.builtIn)

theorem sound_whole : whole.Sound := by
  intro tree settings read
  refine ⟨?_, ?_⟩
  · intro value there
    cases there
    exact read
  · intro missing _
    cases missing

theorem at?_field (part : Part β) (name : String) (reader : Reader α) (get : β → α)
    (tree : Value) :
    tree.at? (part.field name reader get).path =
      (tree.at? part.path).bind fun above => Value.lookup? name above.entries := by
  rw [Part.field, Value.at?_append, funext (Value.at?_singleton name)]

theorem Open.above {part : Part β} {name : String} {reader : Reader α} {get : β → α}
    {tree : Value} (clear : Open (part.field name reader get).path tree) :
    Open part.path tree := by
  intro above below cut
  refine clear above (below ++ [name]) ?_
  rw [Part.field, cut, List.append_assoc]

theorem Sound.field {part : Part β} (sound : part.Sound) {fields : Value.Entries → β → Prop}
    (byField : ReadByField part.reader fields) {name : String} {reader : Reader α} {get : β → α}
    (here : ∀ {entries record}, fields entries record →
      Field name reader get part.builtIn entries record) :
    (part.field name reader get).Sound := by
  intro tree settings read
  obtain ⟨present, absent⟩ := sound tree settings read
  rw [at?_field]
  refine ⟨?_, ?_⟩
  · intro value there
    obtain ⟨above, stands, found⟩ := Option.bind_eq_some_iff.mp there
    have shape : above.shape ≠ .array := by
      cases above with
      | list items => cases found
      | _ => exact fun array => by cases array
    obtain ⟨entries, rfl, record⟩ := byField _ _ (present _ stands) shape
    have taken := here record
    rw [Field, Config.field, show entries.lookup name = some value from found] at taken
    exact taken
  · intro missing clear
    cases stands : tree.at? part.path with
    | none => exact congrArg get (absent stands clear.above)
    | some above =>
        have shape := clear part.path [name] rfl above stands
        obtain ⟨entries, rfl, record⟩ := byField _ _ (present _ stands) shape
        rw [stands] at missing
        have taken := here record
        rw [Field, Config.field, show entries.lookup name = none from missing] at taken
        exact (Option.some.inj taken).symm

theorem sound_server : server.Sound := sound_whole.field settings_readByField (·.server)
theorem sound_cors : cors.Sound := sound_server.field server_readByField (·.cors)
theorem sound_auth : auth.Sound := sound_whole.field settings_readByField (·.auth)
theorem sound_cache : cache.Sound := sound_whole.field settings_readByField (·.cache)
theorem sound_redis : redis.Sound := sound_cache.field cache_readByField (·.redis)
theorem sound_memory : memory.Sound := sound_cache.field cache_readByField (·.memory)
theorem sound_rateLimit : rateLimit.Sound := sound_whole.field settings_readByField (·.rateLimit)
theorem sound_captcha : captcha.Sound := sound_whole.field settings_readByField (·.captcha)
theorem sound_logging : logging.Sound := sound_whole.field settings_readByField (·.logging)

theorem sound_texts : ∀ part ∈ texts, part.Sound := by
  simp only [texts, List.forall_mem_cons, List.not_mem_nil, false_imp_iff, implies_true, and_true]
  exact
    ⟨sound_server.field server_readByField (·.host),
      sound_auth.field auth_readByField (·.accessTokenSecret),
      sound_auth.field auth_readByField (·.refreshTokenSecret),
      sound_auth.field auth_readByField (·.tokenLabel),
      sound_cache.field cache_readByField (·.provider),
      sound_redis.field redis_readByField (·.url),
      sound_redis.field redis_readByField (·.keyLabel),
      sound_captcha.field captcha_readByField (·.cookieName),
      sound_logging.field logging_readByField (·.level),
      sound_logging.field logging_readByField (·.format)⟩

theorem sound_numbers : ∀ part ∈ numbers, part.Sound := by
  simp only [numbers, List.forall_mem_cons, List.not_mem_nil, false_imp_iff, implies_true,
    and_true]
  exact
    ⟨sound_server.field server_readByField (·.port),
      sound_server.field server_readByField (·.contextTimeoutMs),
      sound_cors.field cors_readByField (·.maxAgeSeconds),
      sound_auth.field auth_readByField (·.accessTokenExpiryHours),
      sound_auth.field auth_readByField (·.refreshTokenExpiryHours),
      sound_redis.field redis_readByField (·.connectTimeoutMs),
      sound_redis.field redis_readByField (·.commandTimeoutMs),
      sound_memory.field memory_readByField (·.maxCapacity),
      sound_rateLimit.field rateLimit_readByField (·.requestsPerMinute),
      sound_rateLimit.field rateLimit_readByField (·.sweepIntervalSeconds),
      sound_rateLimit.field rateLimit_readByField (·.staleAfterSeconds),
      sound_captcha.field captcha_readByField (·.imageWidth),
      sound_captcha.field captcha_readByField (·.imageHeight)⟩

theorem sound_flags : ∀ part ∈ flags, part.Sound := by
  simp only [flags, List.forall_mem_cons, List.not_mem_nil, false_imp_iff, implies_true, and_true]
  exact
    ⟨sound_server.field server_readByField (·.trustForwardedFor),
      sound_rateLimit.field rateLimit_readByField (·.enabled),
      sound_captcha.field captcha_readByField (·.requiredForLogin)⟩

theorem sound_leaves : ∀ leaf ∈ leaves, leaf.2.Sound := by
  intro leaf member
  simp only [leaves, List.mem_append, List.mem_map, List.mem_cons, List.not_mem_nil,
    or_false] at member
  rcases member with ((⟨part, known, rfl⟩ | ⟨part, known, rfl⟩) | ⟨part, known, rfl⟩) | rfl | rfl
  · exact sound_texts part known
  · exact sound_numbers part known
  · exact sound_flags part known
  · exact sound_rateLimit.field rateLimit_readByField (·.backend)
  · exact sound_cors.field cors_readByField (·.allowedOrigins)

theorem sound_sections : ∀ part ∈ sections, part.2.Sound := by
  simp only [sections, List.forall_mem_cons, List.not_mem_nil, false_imp_iff, implies_true,
    and_true]
  exact ⟨sound_server, sound_cors, sound_auth, sound_cache, sound_redis, sound_memory,
    sound_rateLimit, sound_captcha, sound_logging⟩

end Part

end Gatehouse.Config

import Gatehouse.Http.Application
import Gatehouse.Proofs.Account.Refinement
import Gatehouse.Proofs.Token.Kinds

/-!
# Callers are known by access tokens, pairs are renewed with refresh tokens

An endpoint that is not throttled answers by itself whatever the way to it adds
to the answer (`status_respond`).  So a caller whose token is refused gets
nothing but the status of the refusal, and a token of the other kind is always
refused: by the profile, and by the exchange.
-/

set_option autoImplicit false

namespace Gatehouse.Http

open Service

/-! ## Tokens in headers -/

theorem visibleText?_bytes (text : String)
    (visible : ∀ char ∈ text.toList, 32 ≤ char.toNat ∧ char.toNat < 127) :
    visibleText? (Text.bytes text) = some text := by
  have basic : ∀ char ∈ text.toList, char.toNat < 128 := by
    intro char member
    have := (visible char member).2
    omega
  have number : ∀ char ∈ text.toList, (UInt8.ofNat char.toNat).toNat = char.toNat := by
    intro char member
    have := basic char member
    exact UInt8.toNat_ofNat_of_lt' (by show _ < 256; omega)
  have spelled : Text.bytes text = text.toList.map fun char => UInt8.ofNat char.toNat := by
    rw [Text.bytes_eq_utf8, Text.utf8_of_basic _ basic]
  have shown : Text.ofLatin1 (Text.bytes text) = text := by
    rw [Text.ofLatin1, spelled, List.map_map]
    have same : text.toList.map ((fun byte : UInt8 => Char.ofNat byte.toNat) ∘
        fun char => UInt8.ofNat char.toNat) = text.toList := by
      refine (List.map_congr_left fun char member => ?_).trans text.toList.map_id
      rw [Function.comp_apply, number char member, Char.ofNat_toNat, id]
    rw [same, String.ofList_toList]
  have allowed : ∀ byte ∈ Text.bytes text,
      (byte == 9 || (32 ≤ byte && byte < 127)) = true := by
    intro byte member
    rw [spelled, List.mem_map] at member
    obtain ⟨char, inside, rfl⟩ := member
    obtain ⟨least, most⟩ := visible char inside
    have value := number char inside
    simp only [Bool.or_eq_true, Bool.and_eq_true, decide_eq_true_eq, UInt8.le_iff_toNat_le,
      UInt8.lt_iff_toNat_lt, value]
    exact Or.inr ⟨least, most⟩
  rw [visibleText?, if_pos (List.all_eq_true.mpr allowed), shown]

/-- A signed token consists of visible characters, so a header can carry it. -/
theorem encode_visible {γ : Type} [Claims γ] (claims : γ) (secret : Secret) :
    ∀ char ∈ (Token.encode claims secret).toList, 32 ≤ char.toNat ∧ char.toNat < 127 := by
  intro char member
  simp only [Token.encode, String.toList_ofList, List.mem_append, List.mem_cons] at member
  rcases member with (header | rfl | payload) | rfl | signature
  · exact Base64.encode_visible _ _ _ header
  · decide
  · exact Base64.encode_visible _ _ _ payload
  · decide
  · exact Base64.encode_visible _ _ _ signature

/-! ## The way to an endpoint keeps the status -/

@[simp] theorem Response.status_withHeaders (response : Response) (headers : List Header) :
    (response.withHeaders headers).status = response.status := rfl

variable {ν : Type} [Throttle.Arithmetic ν] (settings : Config.Settings) (request : Request)
  (surroundings : Surroundings) (world : World ν)

theorem Endpoint.ne_options_of_serves (endpoint : Endpoint) (method : Method)
    (served : endpoint.serves method = true) : method ≠ .options := by
  rintro rfl
  cases endpoint <;> cases served

theorem status_atEndpoint (endpoint : Endpoint) (free : endpoint.throttled = false)
    (served : endpoint.serves request.method = true) :
    ((atEndpoint settings request endpoint).run surroundings world).1.status =
      ((serve settings request endpoint).run surroundings world).1.status := by
  have passed : passes settings request endpoint = .done true := by
    rw [passes, free, Bool.and_false, if_neg Bool.false_ne_true]
  rw [atEndpoint, passed]
  simp only [Flow.bind, served, if_true, Flow.run_bind, Flow.run_done]
  split <;> rfl

theorem status_respond (endpoint : Endpoint) (reached : request.path = endpoint.path)
    (free : endpoint.throttled = false) (served : endpoint.serves request.method = true) :
    ((respond settings request).run surroundings world).1.status =
      ((serve settings request endpoint).run surroundings
        ((traceOf request).run surroundings world).2).1.status := by
  have way : atPath settings request =
      (atEndpoint settings request endpoint).bind fun response =>
        .done (response.withHeaders (settings.server.cors.headers request)) := by
    rw [atPath, reached, Endpoint.ofPath?_path,
      if_neg (endpoint.ne_options_of_serves _ served)]
    rfl
  rw [respond, Flow.run_bind, Flow.run_bind, way, Flow.run_bind, Flow.run_done, Flow.run_done,
    Response.status_withHeaders, Response.status_withHeaders,
    status_atEndpoint settings request surroundings _ endpoint free served]

/-! ## The profile -/

theorem run_caller_refused (fault : Fault)
    (refused : (request.authorization >>= fun presented =>
      (Token.verify settings.auth.tokenLabel presented settings.auth.tokens.accessSecret
        world.wall : Outcome AccessClaims)) = .error fault) :
    (caller settings request).run surroundings world = (.error fault, world) := by
  have now : world.answer surroundings .now = (world.wall, world) := rfl
  simp only [caller, Flow.run_ask, now]
  rw [refused]
  rfl

theorem status_me_refused (fault : Fault)
    (refused : (request.authorization >>= fun presented =>
      (Token.verify settings.auth.tokenLabel presented settings.auth.tokens.accessSecret
        world.wall : Outcome AccessClaims)) = .error fault) :
    ((me settings request).run surroundings world).1.status = fault.asFailure.kind.status := by
  rw [me, answering, Flow.run_bind,
    run_caller_refused settings request surroundings world fault refused]
  rfl

theorem status_unauthorized (failure : Failure)
    (ofKind : failure.kind = .malformed ∨ failure.kind = .invalidSignature) :
    failure.kind.status = 401 := by
  rcases ofKind with ofKind | ofKind <;> rw [ofKind] <;> rfl

/-- Whoever presents a refresh token is nobody to the profile. -/
theorem status_me_of_refresh (presented secret : String) (once : Instant) (claims : RefreshClaims)
    (verified : Token.verify settings.auth.tokenLabel presented secret once = .ok claims)
    (signs : settings.auth.accessTokenSecret ≠ "") (reached : request.path = Endpoint.me.path)
    (served : Endpoint.me.serves request.method = true)
    (presents : request.authorization = .ok presented) :
    ((respond settings request).run surroundings world).1.status = 401 := by
  have apart : Claims.expected RefreshClaims ≠ Claims.expected AccessClaims := by decide
  obtain ⟨failure, refused, ofKind⟩ := Token.verify_apart apart settings.auth.tokenLabel presented
    secret once claims verified settings.auth.accessTokenSecret signs
    ((traceOf request).run surroundings world).2.wall
  rw [status_respond settings request surroundings world .me reached rfl served, serve,
    status_me_refused settings request surroundings _ (.failure failure)]
  · exact status_unauthorized failure ofKind
  · rw [presents, ok_bind]
    exact refused

/-! ## The exchange -/

omit [Throttle.Arithmetic ν] in
theorem refreshAt_of_access (label presented secret : String) (once : Instant)
    (claims : AccessClaims) (verified : Token.verify label presented secret once = .ok claims)
    (tokens : TokenSettings) (signs : tokens.refreshSecret ≠ "") (limit : Nat) (now : Instant) :
    ∃ failure : Failure, failure.kind.status = 401 ∧
      Account.refreshAt label tokens limit presented now = .done (.error (.failure failure)) := by
  have apart : Claims.expected AccessClaims ≠ Claims.expected RefreshClaims := by decide
  obtain ⟨failure, refused, ofKind⟩ := Token.verify_apart apart label presented secret once claims
    verified tokens.refreshSecret signs now
  refine ⟨failure, status_unauthorized failure ofKind, ?_⟩
  rw [Account.refreshAt, refused]

/-! ## One token, one use -/

/-- A token, presented under whatever label, is never both an access and a refresh token, whatever
the secrets and the instants.  So the profile is refused to who presents a refresh token, and the
exchange to who presents an access token, even if both kinds are signed with one secret. -/
theorem kinds_never_mix (label presented : String) :
    (∀ (accessSecret refreshSecret : String) (one other : Instant) (access : AccessClaims)
        (refresh : RefreshClaims),
      ¬ (Token.verify label presented accessSecret one = .ok access ∧
        Token.verify label presented refreshSecret other = .ok refresh)) ∧
    (∀ (secret : String) (once : Instant) (refresh : RefreshClaims),
      Token.verify label presented secret once = .ok refresh →
      ∀ (settings : Config.Settings) (request : Request) (surroundings : Surroundings)
        (world : World ν),
      settings.auth.tokenLabel = label → settings.auth.accessTokenSecret ≠ "" →
      request.path = Endpoint.me.path → Endpoint.me.serves request.method = true →
      request.authorization = .ok presented →
      ((respond settings request).run surroundings world).1.status = 401) ∧
    ∀ (secret : String) (once : Instant) (access : AccessClaims),
      Token.verify label presented secret once = .ok access →
      ∀ tokens : TokenSettings, tokens.refreshSecret ≠ "" → ∀ (limit : Nat) (now : Instant),
      ∃ failure : Failure, failure.kind.status = 401 ∧
        Account.refreshAt label tokens limit presented now =
          .done (.error (.failure failure)) := by
  refine ⟨?_, ?_, ?_⟩
  · rintro accessSecret refreshSecret one other access refresh ⟨asAccess, asRefresh⟩
    have apart : Claims.expected AccessClaims ≠ Claims.expected RefreshClaims := by decide
    have signs := Token.signs_of_verify label presented refreshSecret other refresh asRefresh
    obtain ⟨failure, refused, -⟩ := Token.verify_apart apart label presented accessSecret one access
      asAccess refreshSecret signs other
    rw [asRefresh] at refused
    cases refused
  · rintro secret once refresh verified settings request surroundings world rfl signs reached
      served presents
    exact status_me_of_refresh settings request surroundings world presented secret once refresh
      verified signs reached served presents
  · intro secret once access verified tokens signs limit now
    exact refreshAt_of_access label presented secret once access verified tokens signs limit now

/-- Both kinds are signed with the same secret.  Ada's refresh token is good for the exchange and
refused by the profile, and with her access token it is the other way round. -/
theorem kinds_never_mix_one_secret :
    let settings : Config.Settings := ⟨{ }, ⟨"s", "s", 1, 1, "Bearer "⟩, { }, { }, { }, { }⟩
    let ada : Principal := ⟨⟨7⟩, "ada"⟩
    let hour : Instant := ⟨3600, 0, by decide, by decide, by decide⟩
    let refresh := "Bearer " ++ Token.encode (Token.refreshClaims ada .epoch hour) ⟨"s", by decide⟩
    let access := "Bearer " ++ Token.encode (Token.accessClaims ada .epoch hour) ⟨"s", by decide⟩
    let asking : Request :=
      ⟨.get, "/api/auth/me", [.text "authorization" refresh], none, []⟩
    let world : World Rat := .start .epoch 0 ⟨1, 0, .empty⟩
    settings.validate = .ok () ∧
    Token.verify "Bearer " refresh "s" .epoch = .ok (Token.refreshClaims ada .epoch hour) ∧
    ((respond settings asking).run Account.trial world).1.status = 401 ∧
    Token.verify "Bearer " access "s" .epoch = .ok (Token.accessClaims ada .epoch hour) ∧
    ∃ failure : Failure, failure.kind.status = 401 ∧
      Account.refreshAt "Bearer " settings.auth.tokens 2000 access .epoch =
        .done (.error (.failure failure)) := by
  intro settings ada hour refresh access asking world
  have front : ∀ char, "Bearer ".toList.head? = some char → Text.isBlank char = false := by
    intro char first
    cases first
    decide
  have asRefresh : Token.verify "Bearer " refresh "s" .epoch =
      .ok (Token.refreshClaims ada .epoch hour) := by
    have spelled := Token.bare_label "Bearer " (Token.refreshClaims ada .epoch hour)
      ⟨"s", by decide⟩ front
    exact Token.verify_spelled "Bearer " refresh _ ⟨"s", by decide⟩ .epoch spelled rfl (by decide)
  have asAccess : Token.verify "Bearer " access "s" .epoch =
      .ok (Token.accessClaims ada .epoch hour) := by
    have spelled := Token.bare_label "Bearer " (Token.accessClaims ada .epoch hour)
      ⟨"s", by decide⟩ front
    exact Token.verify_spelled "Bearer " access _ ⟨"s", by decide⟩ .epoch spelled rfl (by decide)
  have visible : ∀ char ∈ refresh.toList, 32 ≤ char.toNat ∧ char.toNat < 127 := by
    intro char member
    have letters : "Bearer ".toList.all
        (fun char => decide (32 ≤ char.toNat ∧ char.toNat < 127)) = true := by decide
    rw [String.toList_append, List.mem_append] at member
    rcases member with label | token
    · exact of_decide_eq_true (List.all_eq_true.mp letters char label)
    · exact encode_visible _ _ char token
  have presents : asking.authorization = .ok refresh := by
    have sent : asking.first? "authorization" = some (Text.bytes refresh) := rfl
    rw [Request.authorization, sent, Option.bind_some, visibleText?_bytes refresh visible]
  refine ⟨rfl, asRefresh, ?_, asAccess, ?_⟩
  · exact (kinds_never_mix "Bearer " refresh).2.1 "s" .epoch _ asRefresh settings asking
      Account.trial world rfl (by decide) (by decide) rfl presents
  · exact (kinds_never_mix (ν := Rat) "Bearer " access).2.2 "s" .epoch _ asAccess
      settings.auth.tokens (by decide) 2000 .epoch

end Gatehouse.Http

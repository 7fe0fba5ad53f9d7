import Gatehouse.Proofs.Token.RoundTrip

/-!
# Only genuine tokens are believed

A token is `Genuine` for claims when its parts are what signing makes of them:
a header that names HS256, the HMAC-SHA256 of header and payload under the
secret, and a payload that reads as the claims.  Nothing else is ever accepted,
and nothing else is ever called expired: the expiry is looked at last.
-/

set_option autoImplicit false

namespace Gatehouse.Token

/-- The bytes are a JSON object, to their end, with a member `alg` that names the algorithm. -/
def NamesAlgorithm (data : List UInt8) (algorithm : Algorithm) : Prop :=
  Json.readDocument readHeader data = .ok algorithm ∧
    ∃ members raw value,
      Json.Outline.Document.ofBytes data = ⟨.object members true, true⟩ ∧
        (raw, value) ∈ members ∧ Json.rawText? raw = some "alg" ∧
          Algorithm.read value = .ok algorithm

/-- What a token has to be for its claims to be believed. -/
structure Genuine {γ : Type} [Claims γ] (token : String) (secret : Secret)
    (segments : Segments) (claims : γ) : Prop where
  /-- The token is the three segments joined by dots, cut at the last two of them. -/
  joined : token.toList =
    segments.header ++ '.' :: segments.payload ++ '.' :: segments.signature
  payload_undotted : '.' ∉ segments.payload
  signature_undotted : '.' ∉ segments.signature
  header : ∃ data, segments.header = Base64.encode .urlSafe data ∧ NamesAlgorithm data .hs256
  signature : segments.signature = Base64.encode .urlSafe
    (Digest.hmacSha256 (Text.bytes secret.text)
      (Text.bytes (String.ofList (segments.header ++ '.' :: segments.payload))))
  payload : ∃ data, segments.payload = Base64.encode .urlSafe data ∧
    Json.readDocument Claims.read data = .ok claims
  kind : Claims.kind claims = Claims.expected γ
  dated : 0 ≤ (Claims.expiresAt claims).toInt

/-! ## What the checks establish -/

theorem readDocument_eq_ok_iff {α : Type} (reader : Json.Reader α) (data : List UInt8)
    (value : α) :
    Json.readDocument reader data = .ok value ↔
      reader (Json.Outline.Document.ofBytes data).root = .ok value ∧
        (Json.Outline.Document.ofBytes data).ended = true := by
  rw [Json.readDocument, bind_eq_ok_iff]
  constructor
  · rintro ⟨found, read, ended⟩
    split at ended
    · rename_i whole
      cases ended
      exact ⟨read, whole⟩
    · cases ended
  · rintro ⟨read, whole⟩
    exact ⟨value, read, by rw [if_pos whole]⟩

theorem wrongType_ne_ok {α : Type} (expected : String) (outline : Json.Outline) (value : α) :
    Json.wrongType expected outline ≠ .ok value := by
  intro read
  rw [Json.wrongType, bind_eq_ok_iff] at read
  obtain ⟨name, _, refused⟩ := read
  cases refused

theorem object_of_readHeader (root : Json.Outline) (algorithm : Algorithm)
    (read : readHeader root = .ok algorithm) :
    ∃ members found, root = .object members true ∧
      Json.collectMembers headerFields [] members = .ok found ∧
        Json.Found.read found "alg" Algorithm.read = .ok algorithm := by
  cases root with
  | object members closed =>
      rw [readHeader, bind_eq_ok_iff] at read
      obtain ⟨found, collected, read⟩ := read
      rw [bind_eq_ok_iff] at read
      obtain ⟨_, _, named⟩ := read
      rw [Json.collect, bind_eq_ok_iff] at collected
      obtain ⟨all, gathered, present⟩ := collected
      split at present
      · rename_i whole
        subst whole
        obtain ⟨_, _, same⟩ := (bind_eq_ok_iff _ _ _).mp present
        cases same
        exact ⟨members, found, rfl, gathered, named⟩
      · cases present
  | null => exact absurd read (wrongType_ne_ok _ _ _)
  | bool value => exact absurd read (wrongType_ne_ok _ _ _)
  | number numeral => exact absurd read (wrongType_ne_ok _ _ _)
  | string raw => exact absurd read (wrongType_ne_ok _ _ _)
  | array items closed => exact absurd read (wrongType_ne_ok _ _ _)
  | broken => exact absurd read (wrongType_ne_ok _ _ _)

theorem namesAlgorithm_of_readDocument (data : List UInt8) (algorithm : Algorithm)
    (read : Json.readDocument readHeader data = .ok algorithm) :
    NamesAlgorithm data algorithm := by
  refine ⟨read, ?_⟩
  obtain ⟨headerRead, ended⟩ := (readDocument_eq_ok_iff _ _ _).mp read
  obtain ⟨members, found, root, collected, named⟩ := object_of_readHeader _ _ headerRead
  have present : ∃ value, found.lookup "alg" = some value ∧ Algorithm.read value = .ok algorithm := by
    rw [Json.Found.read] at named
    split at named
    · rename_i value lookedUp
      exact ⟨value, lookedUp, named⟩
    · cases named
  obtain ⟨value, lookedUp, ofValue⟩ := present
  rcases Json.collectMembers_sound _ _ _ _ collected _ _ lookedUp with none | ⟨raw, label, member⟩
  · cases none
  · refine ⟨members, raw, value, ?_, member, label, ofValue⟩
    rw [← root, ← ended]

theorem algorithm?_eq_some (header : List Char) (algorithm : Algorithm)
    (named : algorithm? header = some algorithm) :
    ∃ data, header = Base64.encode .urlSafe data ∧ NamesAlgorithm data algorithm := by
  simp only [algorithm?, Option.bind_eq_bind, Option.bind_eq_some_iff] at named
  obtain ⟨data, decoded, read⟩ := named
  rw [toOption_eq_some_iff] at read
  exact ⟨data, Base64.eq_encode_of_decode _ _ _ decoded, namesAlgorithm_of_readDocument _ _ read⟩

section

variable {γ : Type} [Claims γ]

theorem claims?_eq_some (payload : List Char) (claims : γ)
    (read : claims? payload = some claims) :
    (∃ data, payload = Base64.encode .urlSafe data ∧
      Json.readDocument Claims.read data = .ok claims) ∧
      0 ≤ (Claims.expiresAt claims).toInt := by
  simp only [claims?, Option.bind_eq_bind, Option.bind_eq_some_iff] at read
  obtain ⟨data, decoded, found, payloadRead, accepted⟩ := read
  split at accepted
  · rename_i fine
    cases Option.some.inj accepted
    rw [toOption_eq_some_iff] at payloadRead
    exact ⟨⟨data, Base64.eq_encode_of_decode _ _ _ decoded, payloadRead⟩, fine.2⟩
  · cases accepted

theorem genuine_of_authenticate (token : String) (secret : Secret) (claims : γ)
    (authentic : authenticate token secret = .ok claims) :
    ∃ segments, Genuine token secret segments claims := by
  obtain ⟨segments, split, named, signed, read, ofKind⟩ :=
    (authenticate_eq_ok_iff token secret claims).mp authentic
  obtain ⟨joined, payloadUndotted, signatureUndotted⟩ :=
    (Segments.of?_eq_some_iff _ _).mp split
  obtain ⟨payload, dated⟩ := claims?_eq_some _ _ read
  exact ⟨segments, {
    joined := joined
    payload_undotted := payloadUndotted
    signature_undotted := signatureUndotted
    header := algorithm?_eq_some _ _ named
    signature := Base64.eq_encode_of_decode _ _ _ signed
    payload := payload
    kind := ofKind
    dated := dated }⟩

/-- The dots of a token decide what its segments are. -/
theorem Genuine.segments_eq (token : String) (secret : Secret) (segments : Segments) (claims : γ)
    (genuine : Genuine token secret segments claims) (other : Segments)
    (joined : token.toList = other.header ++ '.' :: other.payload ++ '.' :: other.signature)
    (payloadUndotted : '.' ∉ other.payload) (signatureUndotted : '.' ∉ other.signature) :
    segments = other := by
  have split := (Segments.of?_eq_some_iff token.toList segments).mpr
    ⟨genuine.joined, genuine.payload_undotted, genuine.signature_undotted⟩
  have also := (Segments.of?_eq_some_iff token.toList other).mpr
    ⟨joined, payloadUndotted, signatureUndotted⟩
  exact Option.some.inj (split.symm.trans also)

theorem genuine_of_decode (token : String) (secret : Secret) (now : Instant) (claims : γ)
    (decoded : decode token secret now = .ok claims) :
    ∃ segments, Genuine token secret segments claims ∧
      now.seconds < (Claims.expiresAt claims).toInt := by
  obtain ⟨authentic, live⟩ := (decode_eq_ok_iff token secret now claims).mp decoded
  obtain ⟨segments, genuine⟩ := genuine_of_authenticate token secret claims authentic
  exact ⟨segments, genuine, live⟩

theorem genuine_of_decode_expired (token : String) (secret : Secret) (now : Instant)
    (failure : Failure)
    (refused : (decode token secret now : Except Failure γ) = .error failure)
    (ofKind : failure.kind = .expired) :
    ∃ segments, ∃ claims : γ, Genuine token secret segments claims ∧
      (Claims.expiresAt claims).toInt ≤ now.seconds := by
  rw [decode, bind_eq_error_iff] at refused
  rcases refused with refused | ⟨found, authentic, stale⟩
  · -- the expiry is looked at last, so nothing before it says expired
    rcases kind_of_authenticate_error token secret failure refused with kind | kind
    · rw [kind] at ofKind
      cases ofKind
    · rw [kind] at ofKind
      cases ofKind
  · rw [unexpired] at stale
    split at stale
    · rename_i late
      obtain ⟨segments, genuine⟩ := genuine_of_authenticate token secret found authentic
      exact ⟨segments, found, genuine, late⟩
    · cases stale

/-- A token is accepted only while it is genuine and unexpired, it is called expired only when it is
genuine and expired, and with any other signature than the right one it is neither. -/
theorem decode_genuine (token : String) (secret : Secret) (now : Instant) :
    (∀ claims : γ, decode token secret now = .ok claims →
      ∃ segments, Genuine token secret segments claims ∧
        now.seconds < (Claims.expiresAt claims).toInt) ∧
    (∀ failure : Failure, (decode token secret now : Except Failure γ) = .error failure →
      failure.kind = .expired →
      ∃ segments, ∃ claims : γ, Genuine token secret segments claims ∧
        (Claims.expiresAt claims).toInt ≤ now.seconds) ∧
    (∀ header payload signature : List Char,
      token.toList = header ++ '.' :: payload ++ '.' :: signature →
      '.' ∉ payload → '.' ∉ signature →
      signature ≠ Base64.encode .urlSafe (Digest.hmacSha256 (Text.bytes secret.text)
        (Text.bytes (String.ofList (header ++ '.' :: payload)))) →
      ∃ failure : Failure, (decode token secret now : Except Failure γ) = .error failure ∧
        failure.kind ≠ .expired) := by
  refine ⟨genuine_of_decode token secret now, genuine_of_decode_expired token secret now, ?_⟩
  intro header payload signature joined payloadUndotted signatureUndotted forged
  -- A token is cut in one way only, so genuine segments would be these.
  have disowned : ∀ (segments : Segments) (claims : γ),
      ¬ Genuine token secret segments claims := by
    intro segments claims genuine
    obtain rfl := genuine.segments_eq token secret segments claims ⟨header, payload, signature⟩
      joined payloadUndotted signatureUndotted
    exact forged genuine.signature
  cases outcome : (decode token secret now : Except Failure γ) with
  | ok claims =>
      obtain ⟨segments, genuine, _⟩ := genuine_of_decode token secret now claims outcome
      exact absurd genuine (disowned segments claims)
  | error failure =>
      refine ⟨failure, rfl, fun ofKind => ?_⟩
      obtain ⟨segments, claims, genuine, _⟩ :=
        genuine_of_decode_expired token secret now failure outcome ofKind
      exact disowned segments claims genuine

end

/-- A token of Ada's that runs for two hours: it is genuine while it is accepted and when it has
expired, and two dots before a blank are a forgery. -/
theorem decode_genuine_two_hours :
    (∃ segments, Genuine (encode (⟨⟨7⟩, "ada", 0, 7200, .access⟩ : AccessClaims) ⟨"s", by decide⟩)
      ⟨"s", by decide⟩ segments (⟨⟨7⟩, "ada", 0, 7200, .access⟩ : AccessClaims)) ∧
    (∃ segments, ∃ claims : AccessClaims,
      Genuine (encode (⟨⟨7⟩, "ada", 0, 7200, .access⟩ : AccessClaims) ⟨"s", by decide⟩)
        ⟨"s", by decide⟩ segments claims ∧ (Claims.expiresAt claims).toInt ≤ 7200) ∧
    (∃ failure : Failure,
      (decode ".. " ⟨"s", by decide⟩ Instant.epoch : Except Failure AccessClaims) =
        .error failure ∧ failure.kind ≠ .expired) := by
  refine ⟨?_, ?_, ?_⟩
  · have decoded := decode_signed (⟨⟨7⟩, "ada", 0, 7200, .access⟩ : AccessClaims)
      ⟨"s", by decide⟩ Instant.epoch rfl (by decide)
    obtain ⟨segments, genuine, _⟩ := (decode_genuine _ _ _).1 _ decoded
    exact ⟨segments, genuine⟩
  · have refused := decode_signed (⟨⟨7⟩, "ada", 0, 7200, .access⟩ : AccessClaims)
      ⟨"s", by decide⟩ ⟨7200, 0, by decide, by decide, by decide⟩ rfl (by decide)
    exact (decode_genuine _ _ _).2.1 .tokenExpired refused rfl
  · refine (decode_genuine _ _ _).2.2 [] [] [' '] (by decide) (by decide) (by decide) ?_
    intro same
    have solid := Base64.encode_solid _ _ ' ' (by rw [← same]; simp)
    exact absurd solid.2 (by decide)

end Gatehouse.Token

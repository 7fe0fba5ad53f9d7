import Gatehouse.Proofs.Outcome
import Gatehouse.Proofs.Token.Payload
import Gatehouse.Proofs.Token.Segments

/-!
# Signed claims are read back

What `authenticate` asks of a token is spelled out by `authenticate_eq_ok_iff`,
check by check.  A token that was just signed meets all of it under its own
secret, so `decode_encode` gives the claims back up to their expiry.
-/

set_option autoImplicit false

namespace Gatehouse.Token

open Json (Scalar)

/-! ## The header -/

@[simp] theorem Algorithm.read_text (algorithm : Algorithm) :
    Algorithm.read (Scalar.text algorithm.name).outline = .ok algorithm := by
  have read := Json.readText_text algorithm.name
  rw [Scalar.outline] at read
  have named : Algorithm.readName algorithm.name = .ok algorithm := by
    cases algorithm <;> rfl
  simp [Scalar.outline, Algorithm.read, read, bind, Except.bind, named]

def headerRecord : Json.Record :=
  [("typ", .text "JWT"), ("alg", .text Algorithm.hs256.name)]

theorem readHeader_headerRecord :
    readHeader (.object headerRecord.members true) = .ok .hs256 := by
  have distinct : (headerRecord.map Prod.fst).Nodup := by decide
  have known : ∀ member ∈ headerRecord, ∃ field,
      headerFields.find? (fun field => field.name == member.1) = some field ∧
        field.check member.2.outline = .ok () := by
    intro member inside
    simp only [headerRecord, List.mem_cons, List.not_mem_nil, or_false] at inside
    rcases inside with rfl | rfl
    · refine ⟨.optionally "typ" (Json.readOptional Json.readText), ?_, ?_⟩
      · simp [headerFields, Json.Field.required, Json.Field.optionally]
      · have read := Json.readText_text "JWT"
        rw [Scalar.outline] at read
        simp [Json.Field.optionally, Scalar.outline, Json.readOptional, read, Except.map]
    · refine ⟨.required "alg" Algorithm.read, ?_, ?_⟩
      · simp [headerFields, Json.Field.required]
      · simp [Json.Field.required, Except.map]
  have complete : ∀ field ∈ headerFields,
      field.optional = true ∨ field.name ∈ headerRecord.map Prod.fst := by
    intro field isField
    simp only [headerFields, List.mem_append, List.mem_map, List.mem_singleton] at isField
    rcases isField with ((rfl | ⟨name, _, rfl⟩) | ⟨name, _, rfl⟩) | rfl
    · exact Or.inr (by simp [headerRecord, Json.Field.required])
    · exact Or.inl rfl
    · exact Or.inl rfl
    · exact Or.inl rfl
  have collected := Json.collect_record "a header" headerFields headerRecord known distinct complete
  have extra : checkExtra headerRecord.members = .ok () := by
    simp [checkExtra, headerRecord, Json.Record.members, headerFields, Json.Field.required,
      Json.Field.optionally]
  have algorithm : headerRecord.found.read "alg" Algorithm.read = .ok .hs256 := by
    rw [Json.Record.read_found _ distinct _ _ (.text Algorithm.hs256.name)
      (by simp [headerRecord]), Algorithm.read_text]
  rw [readHeader, collected]
  simp only [bind, Except.bind, extra, algorithm]

theorem algorithm?_headerText : algorithm? (segment headerText) = some .hs256 := by
  have document := Json.Outline.Document.ofBytes_record headerRecord (List.cons_ne_nil _ _)
  have read : Json.readDocument readHeader (Text.bytes headerText) = .ok .hs256 := by
    have same : headerText = headerRecord.json.text := rfl
    rw [same, Json.readDocument, document]
    simp [bind, Except.bind, readHeader_headerRecord]
  simp [algorithm?, segment, Base64.decode_encode, read, Except.toOption]

/-! ## What is asked of a token -/

section

variable {γ : Type} [Claims γ]

theorem orMalformed_eq_ok_iff {α : Type} (part : Option α) (value : α) :
    orMalformed part = .ok value ↔ part = some value := by
  cases part <;> simp [orMalformed]

theorem authenticate_eq_ok_iff (token : String) (secret : Secret) (claims : γ) :
    authenticate token secret = .ok claims ↔
      ∃ segments, Segments.of? token.toList = some segments ∧
        algorithm? segments.header = some .hs256 ∧
        Base64.decode .urlSafe segments.signature = some (mac secret segments.signed) ∧
        claims? segments.payload = some claims ∧
        Claims.kind claims = Claims.expected γ := by
  simp only [authenticate, bind_eq_ok_iff, orMalformed_eq_ok_iff]
  constructor
  · rintro ⟨segments, split, algorithm, named, checked⟩
    split at checked
    · cases checked
    · rename_i right
      obtain rfl := not_not.mp right
      obtain ⟨signature, signed, checked⟩ := (bind_eq_ok_iff _ _ _).mp checked
      split at checked
      · cases checked
      · rename_i genuine
        obtain rfl := not_not.mp genuine
        obtain ⟨found, read, checked⟩ := (bind_eq_ok_iff _ _ _).mp checked
        split at checked
        · cases checked
        · rename_i ofKind
          cases checked
          exact ⟨segments, split, named, (orMalformed_eq_ok_iff _ _).mp signed,
            (orMalformed_eq_ok_iff _ _).mp read, not_not.mp ofKind⟩
  · rintro ⟨segments, split, named, signed, read, ofKind⟩
    refine ⟨segments, split, .hs256, named, ?_⟩
    simp [signed, read, orMalformed, ofKind]

theorem unexpired_eq_ok_iff (now : Instant) (claims found : γ) :
    unexpired now claims = .ok found ↔
      now.seconds < (Claims.expiresAt claims).toInt ∧ claims = found := by
  rw [unexpired]
  by_cases ended : (Claims.expiresAt claims).toInt ≤ now.seconds
  · have late : ¬ now.seconds < (Claims.expiresAt claims).toInt := by omega
    simp [if_pos ended, late]
  · have live : now.seconds < (Claims.expiresAt claims).toInt := by omega
    simp [if_neg ended, live]

theorem decode_eq_ok_iff (token : String) (secret : Secret) (now : Instant) (claims : γ) :
    decode token secret now = .ok claims ↔
      authenticate token secret = .ok claims ∧ now.seconds < (Claims.expiresAt claims).toInt := by
  simp only [decode, bind_eq_ok_iff, unexpired_eq_ok_iff]
  constructor
  · rintro ⟨found, authentic, live, rfl⟩
    exact ⟨authentic, live⟩
  · rintro ⟨authentic, live⟩
    exact ⟨claims, authentic, live, rfl⟩

/-- Whatever is wrong with a token, it is called malformed or wrongly signed. -/
theorem kind_of_authenticate_error (token : String) (secret : Secret) (failure : Failure)
    (refused : (authenticate token secret : Except Failure γ) = .error failure) :
    failure.kind = .malformed ∨ failure.kind = .invalidSignature := by
  have missing : ∀ {α : Type} (part : Option α), orMalformed part = .error failure →
      failure.kind = .malformed := by
    intro α part absent
    cases part with
    | none =>
        cases absent
        rfl
    | some value => cases absent
  rw [authenticate, bind_eq_error_iff] at refused
  rcases refused with absent | ⟨segments, _, refused⟩
  · exact Or.inl (missing _ absent)
  rw [bind_eq_error_iff] at refused
  rcases refused with absent | ⟨algorithm, _, refused⟩
  · exact Or.inl (missing _ absent)
  split at refused
  · cases refused
    exact Or.inr rfl
  rw [bind_eq_error_iff] at refused
  rcases refused with absent | ⟨signature, _, refused⟩
  · exact Or.inl (missing _ absent)
  split at refused
  · cases refused
    exact Or.inr rfl
  rw [bind_eq_error_iff] at refused
  rcases refused with absent | ⟨claims, _, refused⟩
  · exact Or.inl (missing _ absent)
  split at refused
  · cases refused
    exact Or.inl rfl
  · cases refused

/-! ## Signed tokens -/

theorem segments_encode (claims : γ) (secret : Secret) :
    Segments.of? (encode claims secret).toList =
      some ⟨segment headerText, segment (Claims.write claims).text,
        Base64.encode .urlSafe (mac secret
          (segment headerText ++ '.' :: segment (Claims.write claims).text))⟩ := by
  rw [Segments.of?_eq_some_iff]
  refine ⟨by simp [encode, Segments.chars, Segments.signed], ?_, ?_⟩
  · intro member
    exact (Base64.encode_solid _ _ _ member).1 rfl
  · intro member
    exact (Base64.encode_solid _ _ _ member).1 rfl

theorem authenticate_encode [RecordClaims γ] (claims : γ) (secret : Secret)
    (ofKind : Claims.kind claims = Claims.expected γ)
    (dated : 0 ≤ (Claims.expiresAt claims).toInt) :
    authenticate (encode claims secret) secret = .ok claims := by
  rw [authenticate_eq_ok_iff]
  refine ⟨_, segments_encode claims secret, algorithm?_headerText, ?_, ?_, ofKind⟩
  · exact Base64.decode_encode _ _
  · rw [claims?_segment, if_pos dated]

theorem decode_signed [RecordClaims γ] (claims : γ) (secret : Secret) (now : Instant)
    (ofKind : Claims.kind claims = Claims.expected γ)
    (dated : 0 ≤ (Claims.expiresAt claims).toInt) :
    decode (encode claims secret) secret now = unexpired now claims := by
  rw [decode, authenticate_encode claims secret ofKind dated, ok_bind]

end

end Gatehouse.Token

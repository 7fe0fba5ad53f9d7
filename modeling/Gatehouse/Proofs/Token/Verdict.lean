import Gatehouse.Proofs.Token.Authenticity

/-!
# What a token comes to

The clock decides nothing about a token but whether it has expired: at every
instant it is malformed, or at every instant wrongly signed, or it holds claims
that are accepted up to their expiry and expired from then on (`verdict_fate`).
For a token that was signed from claims, `codec_round_trip` says which of these
it is: the claims decide under their own secret, and any secret with another
code is told at once.
-/

set_option autoImplicit false

namespace Gatehouse.Token

section

variable {γ : Type} [Claims γ]

/-- What verifying a token at an instant comes to; of a failure only its kind. -/
def verdict (token : String) (secret : Secret) (now : Instant) : Except Kind γ :=
  (decode token secret now).mapError Failure.kind

/-! ## At all instants -/

/-- The three ways in which the verdicts on a token may go on through time. -/
inductive Fate (γ : Type)
  | malformed
  | wronglySigned
  | lapsing (claims : γ)

def Fate.asOf : Fate γ → Instant → Except Kind γ
  | malformed, _ => .error .malformed
  | wronglySigned, _ => .error .invalidSignature
  | lapsing claims, now =>
    if now.seconds < (Claims.expiresAt claims).toInt then .ok claims else .error .expired

theorem Fate.asOf_malformed_iff (fate : Fate γ) (now : Instant) :
    fate.asOf now = .error .malformed ↔ fate = .malformed := by
  cases fate with
  | malformed => simp [asOf]
  | wronglySigned => simp [asOf]
  | lapsing claims =>
      rw [asOf]
      split <;> simp

theorem Fate.asOf_invalidSignature_iff (fate : Fate γ) (now : Instant) :
    fate.asOf now = .error .invalidSignature ↔ fate = .wronglySigned := by
  cases fate with
  | malformed => simp [asOf]
  | wronglySigned => simp [asOf]
  | lapsing claims =>
      rw [asOf]
      split <;> simp

theorem verdict_of_refused (token : String) (secret : Secret) (failure : Failure)
    (refused : (authenticate token secret : Except Failure γ) = .error failure) (now : Instant) :
    (verdict token secret now : Except Kind γ) = .error failure.kind := by
  rw [verdict, decode, refused, error_bind]
  rfl

theorem verdict_of_authentic (token : String) (secret : Secret) (claims : γ)
    (authentic : authenticate token secret = .ok claims) (now : Instant) :
    verdict token secret now = (Fate.lapsing claims).asOf now := by
  rw [verdict, decode, authentic, ok_bind, unexpired, Fate.asOf]
  by_cases live : now.seconds < (Claims.expiresAt claims).toInt
  · rw [if_neg (by omega), if_pos live]
    rfl
  · rw [if_pos (by omega), if_neg live]
    rfl

/-- Claims that are accepted at some instant are told by their verdicts.  The second before 1970 is
such an instant, as no expiry lies before it. -/
theorem lapsing_unique (claims : γ) (dated : 0 ≤ (Claims.expiresAt claims).toInt) (fate : Fate γ)
    (same : ∀ now, (Fate.lapsing claims).asOf now = fate.asOf now) : fate = .lapsing claims := by
  have early := same ⟨-1, 0, by decide, by decide, by decide⟩
  have live : (-1 : Int) < (Claims.expiresAt claims).toInt := by omega
  rw [Fate.asOf, if_pos live] at early
  cases fate with
  | malformed => cases early
  | wronglySigned => cases early
  | lapsing other =>
      rw [Fate.asOf] at early
      split at early
      · cases early
        rfl
      · cases early

/-- Time only ever expires a token: its verdicts at all instants are those of one fate. -/
theorem verdict_fate (token : String) (secret : Secret) :
    ∃! fate : Fate γ, ∀ now, verdict token secret now = fate.asOf now := by
  cases result : (authenticate token secret : Except Failure γ) with
  | ok claims =>
      obtain ⟨segments, genuine⟩ := genuine_of_authenticate token secret claims result
      have lapses := verdict_of_authentic token secret claims result
      refine ⟨.lapsing claims, lapses, fun fate described => ?_⟩
      exact lapsing_unique claims genuine.dated fate fun now =>
        (lapses now).symm.trans (described now)
  | error failure =>
      have always := verdict_of_refused token secret failure result
      -- a constant fate is told by its verdict at any one instant
      rcases kind_of_authenticate_error token secret failure result with kind | kind
      · rw [kind] at always
        refine ⟨.malformed, always, fun fate described => ?_⟩
        exact (fate.asOf_malformed_iff Instant.epoch).mp
          ((described _).symm.trans (always _))
      · rw [kind] at always
        refine ⟨.wronglySigned, always, fun fate described => ?_⟩
        exact (fate.asOf_invalidSignature_iff Instant.epoch).mp
          ((described _).symm.trans (always _))

/-! ## Signed claims -/

/-- What is signed for claims: header and payload. -/
def signedText (claims : γ) : List Char :=
  segment headerText ++ '.' :: segment (Claims.write claims).text

/-- The header of signed claims is always in order, so the code is what the secret decides. -/
theorem authenticate_signed (claims : γ) (secret other : Secret) :
    authenticate (encode claims secret) other =
      if mac secret (signedText claims) ≠ mac other (signedText claims) then .error .badSignature
      else orMalformed (claims? (segment (Claims.write claims).text)) >>= fun found : γ =>
        if Claims.kind found ≠ Claims.expected γ then .error (.wrongTokenKind (Claims.expected γ))
        else .ok found := by
  have decoded : Base64.decode .urlSafe (Base64.encode .urlSafe (mac secret
      (segment headerText ++ '.' :: segment (Claims.write claims).text))) =
        some (mac secret (signedText claims)) := Base64.decode_encode _ _
  simp only [authenticate, segments_encode, orMalformed, algorithm?_headerText, ok_bind, decoded,
    ne_eq, not_true_eq_false, if_false]
  rfl

theorem authenticate_forged (claims : γ) (secret other : Secret)
    (differs : mac other (signedText claims) ≠ mac secret (signedText claims)) :
    (authenticate (encode claims secret) other : Except Failure γ) = .error .badSignature := by
  rw [authenticate_signed, if_pos differs.symm]

variable [RecordClaims γ]

theorem authenticate_undated (claims : γ) (secret : Secret)
    (undated : (Claims.expiresAt claims).toInt < 0) :
    (authenticate (encode claims secret) secret : Except Failure γ) = .error .malformedToken := by
  rw [authenticate_signed, if_neg (not_not.mpr rfl), claims?_segment, if_neg (by omega)]
  rfl

theorem authenticate_misplaced (claims : γ) (secret : Secret)
    (dated : 0 ≤ (Claims.expiresAt claims).toInt)
    (misplaced : Claims.kind claims ≠ Claims.expected γ) :
    (authenticate (encode claims secret) secret : Except Failure γ) =
      .error (.wrongTokenKind (Claims.expected γ)) := by
  rw [authenticate_signed, if_neg (not_not.mpr rfl), claims?_segment, if_pos dated]
  simp only [orMalformed, ok_bind, if_pos misplaced]

theorem verdict_encode (claims : γ) (secret : Secret) (now : Instant) :
    verdict (encode claims secret) secret now =
      if Claims.kind claims ≠ Claims.expected γ ∨ (Claims.expiresAt claims).toInt < 0 then
        .error .malformed
      else if (Claims.expiresAt claims).toInt ≤ now.seconds then .error .expired
      else .ok claims := by
  by_cases undated : (Claims.expiresAt claims).toInt < 0
  · rw [if_pos (Or.inr undated),
      verdict_of_refused _ _ _ (authenticate_undated claims secret undated)]
    rfl
  · rw [Int.not_lt] at undated
    by_cases ofKind : Claims.kind claims = Claims.expected γ
    · rw [if_neg (by simp [ofKind, undated]), verdict_of_authentic _ _ _
        (authenticate_encode claims secret ofKind undated), Fate.asOf]
      by_cases live : now.seconds < (Claims.expiresAt claims).toInt
      · rw [if_pos live, if_neg (by omega)]
      · rw [if_neg live, if_pos (by omega)]
    · rw [if_pos (Or.inl ofKind),
        verdict_of_refused _ _ _ (authenticate_misplaced claims secret undated ofKind)]
      rfl

end

/-- Signed claims come back as they were, up to their expiry, and another secret is told by its
code. -/
def ReadsBack (γ : Type) [Claims γ] : Prop :=
  ∀ (claims : γ) (secret : Secret) (now : Instant),
    verdict (encode claims secret) secret now =
        (if Claims.kind claims ≠ Claims.expected γ ∨ (Claims.expiresAt claims).toInt < 0 then
          .error .malformed
        else if (Claims.expiresAt claims).toInt ≤ now.seconds then .error .expired
        else .ok claims) ∧
      ∀ other : Secret, mac other (signedText claims) ≠ mac secret (signedText claims) →
        (verdict (encode claims secret) other now : Except Kind γ) = .error .invalidSignature

/-- Every value of either kind of claims is read back from what it was signed as. -/
theorem codec_round_trip : ReadsBack AccessClaims ∧ ReadsBack RefreshClaims := by
  refine ⟨fun claims secret now => ⟨verdict_encode claims secret now, ?_⟩,
    fun claims secret now => ⟨verdict_encode claims secret now, ?_⟩⟩
  · intro other differs
    exact verdict_of_refused _ _ _ (authenticate_forged claims secret other differs) now
  · intro other differs
    exact verdict_of_refused _ _ _ (authenticate_forged claims secret other differs) now

/-- A name with an escape, a control character and one beyond the basic plane comes back in the last
second of its token, and is refused under another secret. -/
theorem codec_round_trip_escaped :
    let claims : AccessClaims := ⟨⟨7⟩, "\"\n\x00😀", 0, 7200, .access⟩
    let secret : Secret := ⟨"s", by decide⟩
    let other : Secret := ⟨"t", by decide⟩
    mac other (signedText claims) ≠ mac secret (signedText claims) ∧
      verdict (encode claims secret) secret ⟨7199, 0, by decide, by decide, by decide⟩ =
        .ok claims ∧
      (verdict (encode claims secret) other Instant.epoch : Except Kind AccessClaims) =
        .error .invalidSignature := by
  intro claims secret other
  have differs : mac other (signedText claims) ≠ mac secret (signedText claims) := by
    decide +kernel
  have readBack := (codec_round_trip.1 claims secret
    ⟨7199, 0, by decide, by decide, by decide⟩).1
  exact ⟨differs, readBack, (codec_round_trip.1 claims secret Instant.epoch).2 other differs⟩

end Gatehouse.Token

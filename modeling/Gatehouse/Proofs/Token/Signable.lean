import Gatehouse.Proofs.Token.Issuing

/-!
# When a pair can be signed

Signing depends on the settings and the instant alone, and on nothing about the
principal: a pair is signed exactly if there are secrets to sign with and no
expiry lies beyond the last instant.
-/

set_option autoImplicit false

namespace Gatehouse.Token

/-- Both tokens of a pair can be signed at the instant: no secret is empty, and no expiry lies
beyond the last instant. -/
structure Signable (settings : TokenSettings) (now : Instant) : Prop where
  accessSecret : settings.accessSecret ≠ ""
  refreshSecret : settings.refreshSecret ≠ ""
  accessEnd : (now.later? (settings.accessHours * 3600)).isSome
  refreshEnd : (now.later? (settings.refreshHours * 3600)).isSome

theorem isSome_later_of_expiry (now expires : Instant) (hours : Nat)
    (found : expiry now hours = .ok expires) : (now.later? (hours * 3600)).isSome := by
  rw [(expiry_eq_ok_iff now expires hours).mp found]
  rfl

theorem exists_pair_iff (label : String) (principal : Principal) (settings : TokenSettings)
    (now : Instant) :
    (∃ pair, issuePair label principal settings now = .ok pair) ↔ Signable settings now := by
  constructor
  · rintro ⟨pair, issued⟩
    have signed := (issuePair_eq_ok_iff label principal settings now pair).mp issued
    obtain ⟨access, accessText, -⟩ := signed.access
    obtain ⟨refresh, refreshText, -⟩ := signed.refresh
    exact ⟨accessText ▸ access.nonempty, refreshText ▸ refresh.nonempty,
      isSome_later_of_expiry now _ _ signed.accessEnd,
      isSome_later_of_expiry now _ _ signed.refreshEnd⟩
  · intro signable
    obtain ⟨accessEnd, accessFound⟩ := Option.isSome_iff_exists.mp signable.accessEnd
    obtain ⟨refreshEnd, refreshFound⟩ := Option.isSome_iff_exists.mp signable.refreshEnd
    have signed : SignedFor label settings principal now
        ⟨label ++ encode (accessClaims principal now accessEnd) ⟨_, signable.accessSecret⟩,
          label ++ encode (refreshClaims principal now refreshEnd) ⟨_, signable.refreshSecret⟩,
          accessEnd, refreshEnd⟩ :=
      ⟨expiry_of_later now _ _ accessFound, expiry_of_later now _ _ refreshFound, ⟨_, rfl, rfl⟩,
        ⟨_, rfl, rfl⟩⟩
    exact ⟨_, (issuePair_eq_ok_iff label principal settings now _).mpr signed⟩

/-! ## What goes wrong -/

theorem kind_of_expiry_error (now : Instant) (hours : Nat) (failure : Failure)
    (failed : expiry now hours = .error failure) : failure.kind = .signing := by
  unfold expiry at failed
  split at failed
  · cases failed
  · cases failed
    rfl

theorem Secret.ofText_ne_failure (text : String) (failure : Failure) :
    Secret.ofText text ≠ .error (.failure failure) := by
  intro failed
  unfold Secret.ofText at failed
  split at failed <;> cases failed

theorem kind_of_signing_error {γ : Type} (claims : Except Failure γ) (secret : String)
    (token : γ → Secret → String) (failure : Failure)
    (unclaimed : ∀ cause, claims = .error cause → cause.kind = .signing)
    (failed : (do
      let claims ← Outcome.ofExcept claims
      let secret ← Secret.ofText secret
      .ok (token claims secret) : Outcome String) = .error (.failure failure)) :
    failure.kind = .signing := by
  rcases (bind_eq_error_iff _ _ _).mp failed with nothing | ⟨claims, -, unsigned⟩
  · exact unclaimed failure ((Outcome.ofExcept_eq_failure_iff _ _).mp nothing)
  · rcases (bind_eq_error_iff _ _ _).mp unsigned with crashed | ⟨signing, -, made⟩
    · exact absurd crashed (Secret.ofText_ne_failure secret failure)
    · cases made

theorem kind_of_claims_error {γ : Type} (now : Instant) (hours : Nat) (claims : Instant → γ)
    (failure : Failure)
    (failed : (do
      let expires ← expiry now hours
      .ok (claims expires) : Except Failure γ) = .error failure) : failure.kind = .signing := by
  rcases (bind_eq_error_iff _ _ _).mp failed with late | ⟨expires, -, made⟩
  · exact kind_of_expiry_error now hours failure late
  · cases made

/-- A pair that is not signed is missing a secret, which is given up, or has an expiry out of range,
which is a failure of signing. -/
theorem kind_of_issuePair_error (label : String) (principal : Principal)
    (settings : TokenSettings) (now : Instant) (failure : Failure)
    (failed : issuePair label principal settings now = .error (.failure failure)) :
    failure.kind = .signing := by
  unfold issuePair at failed
  rcases (bind_eq_error_iff _ _ _).mp failed with noAccess | ⟨access, -, failed⟩
  · exact kind_of_signing_error _ _ _ failure (kind_of_claims_error now _ _) noAccess
  rcases (bind_eq_error_iff _ _ _).mp failed with noRefresh | ⟨refresh, -, failed⟩
  · exact kind_of_signing_error _ _ _ failure (kind_of_claims_error now _ _) noRefresh
  rcases (bind_eq_error_iff _ _ _).mp failed with undated | ⟨accessEnd, -, failed⟩
  · rw [Outcome.ofExcept_eq_failure_iff] at undated
    exact kind_of_expiry_error now _ failure undated
  rcases (bind_eq_error_iff _ _ _).mp failed with undated | ⟨refreshEnd, -, made⟩
  · rw [Outcome.ofExcept_eq_failure_iff] at undated
    exact kind_of_expiry_error now _ failure undated
  · cases made

end Gatehouse.Token

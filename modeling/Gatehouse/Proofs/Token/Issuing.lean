import Gatehouse.Proofs.Instant.Later
import Gatehouse.Proofs.Text.Trimming
import Gatehouse.Proofs.Token.RoundTrip
import Gatehouse.Token.Pair

/-!
# Issued tokens are accepted

A token comes back from behind its label as it was signed, whatever the label
is, as long as no blank stands at its front (`bare_label`).  A pair that is issued
at an instant verifies at that instant, each token under its own secret, for the
identity it was issued to.
-/

set_option autoImplicit false

namespace Gatehouse.Token

open Gatehouse.Text

/-! ## Taking the label off -/

theorem trimStart_append (front token : List Char)
    (solid : ∀ char ∈ token, isBlank char = false) :
    trimStart (front ++ token) = trimStart front ++ token := by
  induction front with
  | nil => exact trimStart_of_solid token fun char first => solid char (List.mem_of_head? first)
  | cons char front ih =>
      by_cases blank : isBlank char = true
      · simpa [trimStart, blank] using ih
      · simp [trimStart, blank]

theorem trim_append (front token : List Char) (filled : token ≠ [])
    (solid : ∀ char ∈ token, isBlank char = false) :
    trim (front ++ token) = trimStart front ++ token := by
  rw [trim, trimStart_append front token solid]
  refine trimEnd_of_solid _ fun char last => ?_
  rw [List.getLast?_append, Option.or_eq_some_iff] at last
  rcases last with there | ⟨nothing, _⟩
  · exact solid char (List.mem_of_getLast? there)
  · exact absurd (List.getLast?_eq_none_iff.mp nothing) filled

theorem afterFront?_eq_some_iff (front chars rest : List Char) :
    afterFront? front chars = some rest ↔ chars = front ++ rest := by
  induction front generalizing chars with
  | nil => simp [afterFront?]
  | cons expected front ih =>
      cases chars with
      | nil => simp [afterFront?]
      | cons char chars =>
          by_cases same : expected = char
          · simp [afterFront?, same, ih]
          · simp [afterFront?, same, Ne.symm same]

theorem bare_append (label token : String) (filled : token.toList ≠ [])
    (solid : ∀ char ∈ token.toList, isBlank char = false)
    (front : trimStart label.toList = label.toList) :
    bare label (label ++ token) = token := by
  have off : afterFront? label.toList (label.toList ++ token.toList) = some token.toList :=
    (afterFront?_eq_some_iff _ _ _).mpr rfl
  have kept : trimStart token.toList = token.toList :=
    trimStart_of_solid _ fun char head => solid char (List.mem_of_head? head)
  rw [bare, String.toList_append, trim_append _ _ filled solid, front, off, Option.getD_some, kept,
    String.ofList_toList]

section

variable {γ : Type} [Claims γ]

theorem encode_solid (claims : γ) (secret : Secret) :
    ∀ char ∈ (encode claims secret).toList, isBlank char = false := by
  intro char member
  simp only [encode, String.toList_ofList, List.mem_append, List.mem_cons] at member
  rcases member with (header | rfl | payload) | rfl | signature
  · exact (Base64.encode_solid _ _ _ header).2
  · decide
  · exact (Base64.encode_solid _ _ _ payload).2
  · decide
  · exact (Base64.encode_solid _ _ _ signature).2

theorem encode_filled (claims : γ) (secret : Secret) : (encode claims secret).toList ≠ [] := by
  simp [encode]

theorem bare_label (label : String) (claims : γ) (secret : Secret)
    (front : ∀ char, label.toList.head? = some char → isBlank char = false) :
    bare label (label ++ encode claims secret) = encode claims secret :=
  bare_append label _ (encode_filled claims secret) (encode_solid claims secret)
    (trimStart_of_solid label.toList front)

/-! ## Verifying -/

theorem Secret.ofText_eq_ok_iff (text : String) (secret : Secret) :
    Secret.ofText text = .ok secret ↔ secret.text = text := by
  rw [Secret.ofText, Secret.of?]
  by_cases empty : text = ""
  · simp [empty, secret.nonempty]
  · simp only [ne_eq, empty, not_false_eq_true, dite_true, Except.ok.injEq]
    constructor
    · rintro rfl
      rfl
    · rintro rfl
      rfl

theorem verify_eq_ok_iff (label presented secret : String) (now : Instant) (claims : γ) :
    verify label presented secret now = .ok claims ↔
      ∃ signing : Secret, signing.text = secret ∧
        authenticate (bare label presented) signing = .ok claims ∧
          now.seconds < (Claims.expiresAt claims).toInt := by
  simp only [verify, bind_eq_ok_iff, Secret.ofText_eq_ok_iff, Outcome.ofExcept_eq_ok_iff,
    decode_eq_ok_iff]

theorem verify_spelled [RecordClaims γ] (label presented : String) (claims : γ) (secret : Secret)
    (now : Instant) (spelled : bare label presented = encode claims secret)
    (ofKind : Claims.kind claims = Claims.expected γ)
    (dated : 0 ≤ (Claims.expiresAt claims).toInt) :
    verify label presented secret.text now = Outcome.ofExcept (unexpired now claims) := by
  rw [verify, (Secret.ofText_eq_ok_iff _ _).mpr rfl, ok_bind, spelled,
    decode_signed claims secret now ofKind dated]

theorem unexpired_of_live (now : Instant) (claims : γ)
    (live : now.seconds < (Claims.expiresAt claims).toInt) : unexpired now claims = .ok claims :=
  (unexpired_eq_ok_iff now claims claims).mpr ⟨live, rfl⟩

theorem unexpired_of_ended (now : Instant) (claims : γ)
    (ended : (Claims.expiresAt claims).toInt ≤ now.seconds) :
    unexpired now claims = .error .tokenExpired := by
  rw [unexpired, if_pos ended]

end

/-! ## One token -/

theorem claim_toInt (instant : Instant) : instant.claim.toInt = instant.seconds := by
  have least := instant.first_le
  have most := instant.le_last
  simp only [firstSecond, lastSecond] at least most
  rw [Instant.claim, Int64.toInt_ofInt_of_le] <;> omega

/-- What an access token asserts of the principal from one instant to another. -/
def accessClaims (principal : Principal) (now expires : Instant) : AccessClaims :=
  ⟨principal.id, principal.displayName, now.claim, expires.claim, .access⟩

/-- What a refresh token asserts of the principal from one instant to another. -/
def refreshClaims (principal : Principal) (now expires : Instant) : RefreshClaims :=
  ⟨principal.id, now.claim, expires.claim, .refresh⟩

theorem accessClaims_ends (principal : Principal) (now expires : Instant) :
    (Claims.expiresAt (accessClaims principal now expires)).toInt = expires.seconds :=
  claim_toInt expires

theorem refreshClaims_ends (principal : Principal) (now expires : Instant) :
    (Claims.expiresAt (refreshClaims principal now expires)).toInt = expires.seconds :=
  claim_toInt expires

theorem expiry_of_later (now expires : Instant) (hours : Nat)
    (found : now.later? (hours * 3600) = some expires) : expiry now hours = .ok expires := by
  rw [expiry, found]

theorem expiry_eq_ok_iff (now expires : Instant) (hours : Nat) :
    expiry now hours = .ok expires ↔ now.later? (hours * 3600) = some expires := by
  constructor
  · intro found
    unfold expiry at found
    split at found
    · rename_i instant later
      cases found
      exact later
    · cases found
  · exact expiry_of_later now expires hours

theorem expiry_seconds (now expires : Instant) (hours : Nat)
    (found : expiry now hours = .ok expires) :
    expires.seconds = now.seconds + (hours * 3600 : Nat) :=
  ((Instant.later?_eq_some_iff _ _ _).mp ((expiry_eq_ok_iff now expires hours).mp found)).1

theorem issueAccess_eq_ok_iff (label : String) (principal : Principal) (secret : String)
    (hours : Nat) (now : Instant) (token : String) :
    issueAccess label principal secret hours now = .ok token ↔
      ∃ expires, expiry now hours = .ok expires ∧ ∃ signing : Secret, signing.text = secret ∧
        token = label ++ encode (accessClaims principal now expires) signing := by
  simp only [issueAccess, AccessClaims.issue, bind_eq_ok_iff, Outcome.ofExcept_eq_ok_iff,
    Secret.ofText_eq_ok_iff, Except.ok.injEq]
  constructor
  · rintro ⟨_, ⟨expires, found, rfl⟩, signing, text, rfl⟩
    exact ⟨expires, found, signing, text, rfl⟩
  · rintro ⟨expires, found, signing, text, rfl⟩
    exact ⟨_, ⟨expires, found, rfl⟩, signing, text, rfl⟩

theorem issueRefresh_eq_ok_iff (label : String) (principal : Principal) (secret : String)
    (hours : Nat) (now : Instant) (token : String) :
    issueRefresh label principal secret hours now = .ok token ↔
      ∃ expires, expiry now hours = .ok expires ∧ ∃ signing : Secret, signing.text = secret ∧
        token = label ++ encode (refreshClaims principal now expires) signing := by
  simp only [issueRefresh, RefreshClaims.issue, bind_eq_ok_iff, Outcome.ofExcept_eq_ok_iff,
    Secret.ofText_eq_ok_iff, Except.ok.injEq]
  constructor
  · rintro ⟨_, ⟨expires, found, rfl⟩, signing, text, rfl⟩
    exact ⟨expires, found, signing, text, rfl⟩
  · rintro ⟨expires, found, signing, text, rfl⟩
    exact ⟨_, ⟨expires, found, rfl⟩, signing, text, rfl⟩

/-- What is asked of an instant for a token to be issued at it and verify at once. -/
structure Issuable (label secret : String) (hours : Nat) (now : Instant) : Prop where
  front : ∀ char, label.toList.head? = some char → isBlank char = false
  signs : secret ≠ ""
  lasts : 0 < hours
  dated : 0 ≤ now.seconds
  range : (now.later? (hours * 3600)).isSome

theorem Issuable.expiry (label secret : String) (hours : Nat) (now : Instant)
    (issuable : Issuable label secret hours now) :
    ∃ expires, Gatehouse.expiry now hours = .ok expires := by
  obtain ⟨expires, found⟩ := Option.isSome_iff_exists.mp issuable.range
  exact ⟨expires, expiry_of_later now expires hours found⟩

/-- What is issued at such an instant has not run out at it. -/
theorem Issuable.lives (label secret : String) (hours : Nat) (now expires : Instant)
    (issuable : Issuable label secret hours now)
    (found : Gatehouse.expiry now hours = .ok expires) :
    0 ≤ expires.seconds ∧ now.seconds < expires.seconds := by
  have later := expiry_seconds now expires hours found
  have positive := issuable.lasts
  have dated := issuable.dated
  omega

/-! ## Pairs -/

/-- The pair is what signing makes of a principal at an instant. -/
structure SignedFor (label : String) (settings : TokenSettings) (principal : Principal)
    (now : Instant) (pair : TokenPair) : Prop where
  accessEnd : expiry now settings.accessHours = .ok pair.accessExpiresAt
  refreshEnd : expiry now settings.refreshHours = .ok pair.refreshExpiresAt
  access : ∃ secret : Secret, secret.text = settings.accessSecret ∧
    pair.accessToken = label ++ encode (accessClaims principal now pair.accessExpiresAt) secret
  refresh : ∃ secret : Secret, secret.text = settings.refreshSecret ∧
    pair.refreshToken = label ++ encode (refreshClaims principal now pair.refreshExpiresAt) secret

theorem issuePair_eq_ok_iff (label : String) (principal : Principal) (settings : TokenSettings)
    (now : Instant) (pair : TokenPair) :
    issuePair label principal settings now = .ok pair ↔
      SignedFor label settings principal now pair := by
  simp only [issuePair, bind_eq_ok_iff, issueAccess_eq_ok_iff, issueRefresh_eq_ok_iff,
    Outcome.ofExcept_eq_ok_iff, Except.ok.injEq]
  constructor
  · rintro ⟨_, ⟨accessEnd, accessFound, access⟩, _, ⟨refreshEnd, refreshFound, refresh⟩, _,
      accessAgain, _, refreshAgain, rfl⟩
    rw [accessFound] at accessAgain
    rw [refreshFound] at refreshAgain
    cases accessAgain
    cases refreshAgain
    exact ⟨accessFound, refreshFound, access, refresh⟩
  · intro signed
    exact ⟨_, ⟨_, signed.accessEnd, signed.access⟩, _, ⟨_, signed.refreshEnd, signed.refresh⟩, _,
      signed.accessEnd, _, signed.refreshEnd, rfl⟩

theorem issuePair_signed (label : String) (settings : TokenSettings) (now : Instant)
    (access : Issuable label settings.accessSecret settings.accessHours now)
    (refresh : Issuable label settings.refreshSecret settings.refreshHours now)
    (principal : Principal) :
    ∃ pair, issuePair label principal settings now = .ok pair ∧
      SignedFor label settings principal now pair := by
  obtain ⟨accessEnd, accessFound⟩ := access.expiry label _ _ now
  obtain ⟨refreshEnd, refreshFound⟩ := refresh.expiry label _ _ now
  have signed : SignedFor label settings principal now
      ⟨label ++ encode (accessClaims principal now accessEnd) ⟨_, access.signs⟩,
        label ++ encode (refreshClaims principal now refreshEnd) ⟨_, refresh.signs⟩, accessEnd,
        refreshEnd⟩ :=
    ⟨accessFound, refreshFound, ⟨_, rfl, rfl⟩, ⟨_, rfl, rfl⟩⟩
  exact ⟨_, (issuePair_eq_ok_iff label principal settings now _).mpr signed, signed⟩

/-- Both tokens of a pair verify for the identity at this instant. -/
def Identifies (label : String) (settings : TokenSettings) (now : Instant) (id : Uuid)
    (pair : TokenPair) : Prop :=
  (∃ claims : AccessClaims,
    verify label pair.accessToken settings.accessSecret now = .ok claims ∧ claims.subject = id) ∧
  ∃ claims : RefreshClaims,
    verify label pair.refreshToken settings.refreshSecret now = .ok claims ∧ claims.subject = id

namespace SignedFor

variable (label : String) (settings : TokenSettings) (principal : Principal) (now : Instant)
  (pair : TokenPair) (signed : SignedFor label settings principal now pair)

include signed

theorem access_verifies
    (issuable : Issuable label settings.accessSecret settings.accessHours now) :
    ∃ claims : AccessClaims,
      verify label pair.accessToken settings.accessSecret now = .ok claims ∧
        claims.subject = principal.id ∧ claims.name = principal.displayName := by
  obtain ⟨secret, text, token⟩ := signed.access
  obtain ⟨dated, live⟩ := issuable.lives label _ _ now _ signed.accessEnd
  rw [← accessClaims_ends principal now pair.accessExpiresAt] at dated live
  have spelled := bare_label label (accessClaims principal now pair.accessExpiresAt) secret
    issuable.front
  refine ⟨accessClaims principal now pair.accessExpiresAt, ?_, rfl, rfl⟩
  rw [token, ← text, verify_spelled label _ _ secret now spelled rfl dated,
    unexpired_of_live now _ live, Outcome.ofExcept_ok]

theorem refresh_verifies
    (issuable : Issuable label settings.refreshSecret settings.refreshHours now)
    (presented : String) (same : bare label presented = bare label pair.refreshToken)
    (later : Instant) :
    verify label presented settings.refreshSecret later =
      Outcome.ofExcept (unexpired later (refreshClaims principal now pair.refreshExpiresAt)) := by
  obtain ⟨secret, text, token⟩ := signed.refresh
  obtain ⟨dated, -⟩ := issuable.lives label _ _ now _ signed.refreshEnd
  rw [← refreshClaims_ends principal now pair.refreshExpiresAt] at dated
  rw [token, bare_label label _ secret issuable.front] at same
  rw [← text, verify_spelled label presented _ secret later same rfl dated]

theorem identifies (access : Issuable label settings.accessSecret settings.accessHours now)
    (refresh : Issuable label settings.refreshSecret settings.refreshHours now) :
    Identifies label settings now principal.id pair := by
  obtain ⟨claims, verified, subject, -⟩ :=
    signed.access_verifies label settings principal now pair access
  have live := (refresh.lives label _ _ now _ signed.refreshEnd).2
  rw [← refreshClaims_ends principal now pair.refreshExpiresAt] at live
  refine ⟨⟨claims, verified, subject⟩, refreshClaims principal now pair.refreshExpiresAt, ?_, rfl⟩
  rw [signed.refresh_verifies label settings principal now pair refresh pair.refreshToken rfl now,
    unexpired_of_live now _ live, Outcome.ofExcept_ok]

end SignedFor

end Gatehouse.Token

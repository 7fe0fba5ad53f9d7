import Mathlib.Data.List.Infix
import Gatehouse.Proofs.Token.Labels
import Gatehouse.Proofs.Token.Signable

/-!
# Lifetimes are exact

A pair is issued exactly if both of its expiries can be represented.  Its tokens assert the whole
second they were issued in and, as many hours later, the whole second of the expiry that is
reported with them, so that no verifier, whatever its label and secret, takes a token when that
expiry has come.
-/

set_option autoImplicit false

namespace Gatehouse.Token

open Gatehouse.Text

/-! ## What a verifier takes from a presented text -/

theorem bare_suffix (label front token : String) (filled : token.toList ≠ [])
    (solid : ∀ char ∈ token.toList, isBlank char = false) :
    ∃ rest, rest <:+ front.toList ++ token.toList ∧
      bare label (front ++ token) = String.ofList rest := by
  have trimmed : trim (front ++ token).toList <:+ front.toList ++ token.toList := by
    rw [String.toList_append, trim_append _ _ filled solid, List.suffix_append_self_iff]
    exact List.dropWhile_suffix _
  refine ⟨_, (List.dropWhile_suffix isBlank).trans ?_, rfl⟩
  cases after : afterFront? label.toList (trim (front ++ token).toList) with
  | none => exact trimmed
  | some rest =>
      rw [afterFront?_eq_some_iff] at after
      rw [after] at trimmed
      exact (List.suffix_append _ _).trans trimmed

section

variable {γ : Type} [Claims γ] [RecordClaims γ] (claims : γ) (secret : Secret)

theorem claims_of_authenticate (other : Secret) (front : List Char) (found : γ)
    (authentic : authenticate (String.ofList (front ++ (encode claims secret).toList)) other =
      .ok found) : found = claims := by
  obtain ⟨segments, split, -, -, read, -⟩ := (authenticate_eq_ok_iff _ _ _).mp authentic
  rw [String.toList_ofList, Segments.of?_append front _ _ (segments_encode claims secret),
    Option.some.injEq] at split
  subst split
  rw [claims?_segment] at read
  split at read
  · exact (Option.some.inj read).symm
  · cases read

theorem ends_of_verify (label front other : String) (now : Instant) (found : γ)
    (accepted : verify label (front ++ encode claims secret) other now = .ok found) :
    found = claims ∧ now.seconds < (Claims.expiresAt claims).toInt := by
  obtain ⟨signing, -, authentic, live⟩ := (verify_eq_ok_iff _ _ _ _ _).mp accepted
  obtain ⟨rest, ⟨before, whole⟩, spelled⟩ := bare_suffix label front (encode claims secret)
    (encode_filled claims secret) (encode_solid claims secret)
  rw [spelled] at authentic
  have same : found = claims := by
    rcases List.append_eq_append_iff.mp whole with ⟨front, -, rfl⟩ | ⟨start, -, token⟩
    · exact claims_of_authenticate claims secret signing front found authentic
    · by_cases none : start = []
      · rw [none, List.nil_append] at token
        rw [← token] at authentic
        exact claims_of_authenticate claims secret signing [] found authentic
      · exact absurd authentic (authenticate_shortened claims secret signing start rest token none
          found)
  exact ⟨same, same ▸ live⟩

end

/-! ## Hours ahead -/

/-- The instant so many hours later can be represented. -/
def Fits (now : Instant) (hours : Nat) : Prop :=
  now.seconds + hours * 3600 ≤ lastSecond

instance (now : Instant) (hours : Nat) : Decidable (Fits now hours) :=
  inferInstanceAs (Decidable (_ ≤ _))

theorem Fits.mono (now : Instant) (hours fewer : Nat) (fits : Fits now hours)
    (within : fewer ≤ hours) : Fits now fewer := by
  unfold Fits at fits ⊢
  omega

theorem isSome_hours_iff (now : Instant) (hours : Nat) :
    (now.later? (hours * 3600)).isSome ↔ Fits now hours := by
  rw [Instant.isSome_later?_iff, Int.natCast_mul]
  rfl

theorem expiry_of_not_fits (now : Instant) (hours : Nat) (late : ¬ Fits now hours) :
    expiry now hours = .error (.lifetimeOutOfRange hours) := by
  have none : now.later? (hours * 3600) = none := by
    rw [← Option.not_isSome_iff_eq_none, isSome_hours_iff]
    exact late
  rw [expiry, none]

theorem signable_iff (settings : TokenSettings) (now : Instant) :
    Signable settings now ↔ (settings.accessSecret ≠ "" ∧ settings.refreshSecret ≠ "") ∧
      Fits now settings.accessHours ∧ Fits now settings.refreshHours := by
  constructor
  · rintro ⟨accessSecret, refreshSecret, accessEnd, refreshEnd⟩
    rw [isSome_hours_iff] at accessEnd refreshEnd
    exact ⟨⟨accessSecret, refreshSecret⟩, accessEnd, refreshEnd⟩
  · rintro ⟨⟨accessSecret, refreshSecret⟩, accessEnd, refreshEnd⟩
    exact ⟨accessSecret, refreshSecret, (isSome_hours_iff _ _).mpr accessEnd,
      (isSome_hours_iff _ _).mpr refreshEnd⟩

theorem hours_of_validate (settings : Config.Settings) (valid : settings.validate = .ok ()) :
    settings.auth.tokens.accessHours ≤ Config.maxExpiryHours ∧
      settings.auth.tokens.refreshHours ≤ Config.maxExpiryHours := by
  rw [Config.Settings.validate] at valid
  by_cases long : settings.auth.accessTokenExpiryHours > Config.maxExpiryHours ∨
      settings.auth.refreshTokenExpiryHours > Config.maxExpiryHours
  · simp only [if_pos long] at valid
    split at valid
    · cases valid
    · split at valid <;> cases valid
  · obtain ⟨access, refresh⟩ := not_or.mp long
    exact ⟨Nat.le_of_not_gt access, Nat.le_of_not_gt refresh⟩

theorem signable_of_validate (settings : Config.Settings) (valid : settings.validate = .ok ())
    (now : Instant) (lasting : Fits now Config.maxExpiryHours) :
    Signable settings.auth.tokens now := by
  obtain ⟨access, refresh⟩ := hours_of_validate settings valid
  exact (signable_iff _ now).mpr ⟨secrets_of_validate settings valid,
    lasting.mono now _ _ access, lasting.mono now _ _ refresh⟩

/-! ## Pairs -/

/-- The token holds the claims, signed under the secret; they are dated from `now` to `expires`, the
instant so many hours later, and are the only ones that any verifier reads from the token, only
before `expires`. -/
structure Spans {γ : Type} [Claims γ] (issuedAt : γ → Int64) (label token secret : String)
    (now : Instant) (hours : Nat) (expires : Instant) (claims : γ) : Prop where
  signed : ∃ signing : Secret, signing.text = secret ∧ token = label ++ encode claims signing
  issued : (issuedAt claims).toInt = now.seconds
  lifetime : (Claims.expiresAt claims).toInt - (issuedAt claims).toInt = hours * 3600
  reported : (Claims.expiresAt claims).toInt = expires.seconds
  seconds : expires.seconds = now.seconds + hours * 3600
  nanos : expires.nanos = now.nanosAhead (hours * 3600)
  elapsed : now.nanos < 1000000000 → expires.since now = hours * 3600 * 1000000000
  ends : ∀ (bare verifier other : String) (later : Instant) (found : γ),
    token = label ++ bare → ∀ presented ∈ [token, bare],
      verify verifier presented other later = .ok found →
        found = claims ∧ later.seconds < expires.seconds

theorem spans_of_signed {γ : Type} [Claims γ] [RecordClaims γ] (issuedAt : γ → Int64)
    (label token secret : String) (now : Instant) (hours : Nat) (expires : Instant) (claims : γ)
    (found : expiry now hours = .ok expires)
    (signed : ∃ signing : Secret, signing.text = secret ∧ token = label ++ encode claims signing)
    (issued : issuedAt claims = now.claim) (ends : Claims.expiresAt claims = expires.claim) :
    Spans issuedAt label token secret now hours expires claims := by
  have later := (expiry_eq_ok_iff now expires hours).mp found
  obtain ⟨ahead, nanos⟩ := (Instant.later?_eq_some_iff _ _ _).mp later
  have seconds : expires.seconds = now.seconds + hours * 3600 := by
    rw [ahead, Int.natCast_mul]
    rfl
  have reported : (Claims.expiresAt claims).toInt = expires.seconds := by
    rw [ends, claim_toInt]
  refine ⟨signed, ?_, ?_, reported, seconds, nanos, ?_, ?_⟩
  · rw [issued, claim_toInt]
  · rw [reported, issued, claim_toInt]
    omega
  · intro ordinary
    have waited := Instant.since_of_later? now expires _ later ordinary
    rwa [Int.natCast_mul] at waited
  · intro bare verifier other instant read whole presented form accepted
    obtain ⟨signing, -, token⟩ := signed
    rw [token, String.append_right_inj] at whole
    subst whole
    rw [← reported]
    simp only [List.mem_cons, List.not_mem_nil, or_false] at form
    rcases form with rfl | rfl
    · rw [token] at accepted
      exact ends_of_verify claims signing verifier label other instant read accepted
    · have accepted' := ends_of_verify claims signing verifier "" other instant read
      rw [String.empty_append] at accepted'
      exact accepted' accepted

/-- With secrets to sign with, nothing but a lifetime out of range keeps a pair from being issued. -/
theorem refused_of_not_fits (label : String) (principal : Principal) (settings : TokenSettings)
    (now : Instant) (accessSigns : settings.accessSecret ≠ "")
    (late : ¬ (Fits now settings.accessHours ∧ Fits now settings.refreshHours)) :
    ∃ hours ∈ [settings.accessHours, settings.refreshHours], ¬ Fits now hours ∧
      issuePair label principal settings now = .error (.failure (.lifetimeOutOfRange hours)) := by
  by_cases access : Fits now settings.accessHours
  · have refresh : ¬ Fits now settings.refreshHours := fun fits => late ⟨access, fits⟩
    obtain ⟨expires, found⟩ :=
      Option.isSome_iff_exists.mp ((isSome_hours_iff now settings.accessHours).mpr access)
    have issued := (issueAccess_eq_ok_iff label principal settings.accessSecret _ now _).mpr
      ⟨expires, expiry_of_later now expires _ found, ⟨_, accessSigns⟩, rfl, rfl⟩
    refine ⟨_, List.mem_cons_of_mem _ List.mem_cons_self, refresh, ?_⟩
    rw [issuePair, issued, ok_bind, issueRefresh, RefreshClaims.issue,
      expiry_of_not_fits now _ refresh]
    rfl
  · refine ⟨_, List.mem_cons_self, access, ?_⟩
    rw [issuePair, issueAccess, AccessClaims.issue, expiry_of_not_fits now _ access]
    rfl

/-- A pair is issued exactly if both expiries can be represented, else the lifetime that is out of
range is a failure of signing; the tokens of a pair are dated exactly, and settings in order can
always issue, up to ten years before the last instant. -/
theorem issuance_exact (label : String) (principal : Principal) (settings : TokenSettings)
    (now : Instant) (accessSigns : settings.accessSecret ≠ "")
    (refreshSigns : settings.refreshSecret ≠ "") :
    ((∃ pair, issuePair label principal settings now = .ok pair) ↔
      Fits now settings.accessHours ∧ Fits now settings.refreshHours) ∧
    (¬ (Fits now settings.accessHours ∧ Fits now settings.refreshHours) →
      ∃ hours ∈ [settings.accessHours, settings.refreshHours], ¬ Fits now hours ∧
        issuePair label principal settings now = .error (.failure (.lifetimeOutOfRange hours)) ∧
        (Failure.lifetimeOutOfRange hours).kind = .signing) ∧
    (∀ pair, issuePair label principal settings now = .ok pair →
      ∃ (access : AccessClaims) (refresh : RefreshClaims),
        (access.subject = principal.id ∧ access.name = principal.displayName) ∧
        refresh.subject = principal.id ∧
        Spans AccessClaims.issuedAt label pair.accessToken settings.accessSecret now
          settings.accessHours pair.accessExpiresAt access ∧
        Spans RefreshClaims.issuedAt label pair.refreshToken settings.refreshSecret now
          settings.refreshHours pair.refreshExpiresAt refresh) ∧
    (∀ config : Config.Settings, config.validate = .ok () → Fits now 87600 →
      ∃ pair, issuePair config.auth.tokenLabel principal config.auth.tokens now = .ok pair) := by
  refine ⟨?_, ?_, ?_, ?_⟩
  · rw [exists_pair_iff, signable_iff]
    exact and_iff_right ⟨accessSigns, refreshSigns⟩
  · intro late
    obtain ⟨hours, which, unfit, refused⟩ :=
      refused_of_not_fits label principal settings now accessSigns late
    exact ⟨hours, which, unfit, refused, rfl⟩
  · intro pair issued
    have signed := (issuePair_eq_ok_iff label principal settings now pair).mp issued
    exact ⟨accessClaims principal now pair.accessExpiresAt,
      refreshClaims principal now pair.refreshExpiresAt, ⟨rfl, rfl⟩, rfl,
      spans_of_signed _ label _ _ now _ _ _ signed.accessEnd signed.access rfl rfl,
      spans_of_signed _ label _ _ now _ _ _ signed.refreshEnd signed.refresh rfl rfl⟩
  · intro config valid lasting
    exact (exists_pair_iff _ principal _ now).mpr (signable_of_validate config valid now lasting)

/-- In the last second that lies an hour before the end of time, an hour is issued to the last
nanosecond, and two hours are not issued. -/
theorem issuance_exact_last_hour :
    let settings : TokenSettings := ⟨"s", "t", 1, 2⟩
    let shorter : TokenSettings := ⟨"s", "t", 1, 1⟩
    let ada : Principal := ⟨⟨7⟩, "ada"⟩
    let now : Instant := ⟨8210266873199, 999999999, by decide, by decide, by decide⟩
    (settings.accessSecret ≠ "" ∧ settings.refreshSecret ≠ "") ∧ Fits now 1 ∧ ¬ Fits now 2 ∧
      issuePair "Bearer " ada settings now = .error (.failure (.lifetimeOutOfRange 2)) ∧
      ∃ pair, issuePair "Bearer " ada shorter now = .ok pair ∧
        pair.refreshExpiresAt.seconds = lastSecond ∧ pair.refreshExpiresAt.nanos = 999999999 := by
  intro settings shorter ada now
  have fits : Fits now 1 := by decide
  have late : ¬ Fits now 2 := by decide
  refine ⟨⟨by decide, by decide⟩, fits, late, ?_, ?_⟩
  · obtain ⟨hours, which, unfit, refused, -⟩ :=
      (issuance_exact "Bearer " ada settings now (by decide) (by decide)).2.1 fun both => late both.2
    simp only [settings, List.mem_cons, List.not_mem_nil, or_false] at which
    rcases which with rfl | rfl
    · exact absurd fits unfit
    · exact refused
  · obtain ⟨issues, -, exact, -⟩ :=
      issuance_exact "Bearer " ada shorter now (by decide) (by decide)
    obtain ⟨pair, issued⟩ := issues.mpr ⟨fits, fits⟩
    obtain ⟨access, refresh, -, -, -, spans⟩ := exact pair issued
    refine ⟨pair, issued, ?_, ?_⟩
    · rw [spans.seconds]
      decide
    · rw [spans.nanos]
      decide

end Gatehouse.Token

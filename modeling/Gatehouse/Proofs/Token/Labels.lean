import Gatehouse.Config.Settings
import Gatehouse.Proofs.Token.Issuing
import Gatehouse.Proofs.Token.Verdict

/-!
# Labels that come off

A label is put in front of a token as it is, but it is looked for only after the
blanks have gone from the front of what is presented.  So a label that starts
with a blank stays on, unless it is nothing but blanks, and what is left of it
spoils the token.  A token without its label is taken as it is, unless it happens
to start like the label.
-/

set_option autoImplicit false

namespace Gatehouse.Token

open Gatehouse.Text

/-! ## What is left of a label -/

/-- The label starts with no blank, or is nothing but blanks. -/
def ComesOff (label : String) : Prop :=
  trimStart label.toList = label.toList ∨ trimStart label.toList = []

instance (label : String) : Decidable (ComesOff label) :=
  inferInstanceAs (Decidable (_ ∨ _))

example : ComesOff "Bearer " ∧ ComesOff "  " ∧ ¬ ComesOff " Bearer " := by
  decide +kernel

theorem solid_of_trimStart (chars : List Char) (char : Char) (rest : List Char)
    (trimmed : trimStart chars = char :: rest) : isBlank char = false := by
  have first := List.head?_dropWhile_not isBlank chars
  rw [trimStart] at trimmed
  rw [trimmed] at first
  simpa using first

section

variable (label token : String) (solid : ∀ char ∈ token.toList, isBlank char = false)

include solid

theorem trim_token : trim token.toList = token.toList := by
  by_cases filled : token.toList = []
  · rw [filled]
    rfl
  · exact trim_append [] token.toList filled solid

theorem bare_of_front (rest : List Char) (front : token.toList = label.toList ++ rest) :
    bare label token = String.ofList rest := by
  have after : afterFront? label.toList token.toList = some rest :=
    (afterFront?_eq_some_iff _ _ _).mpr front
  have kept : trimStart rest = rest := by
    refine trimStart_of_solid rest fun char first => solid char ?_
    rw [front]
    exact List.mem_append_right _ (List.mem_of_head? first)
  rw [bare, trim_token token solid, after, Option.getD_some, kept]

theorem bare_of_apart (apart : ¬ label.toList <+: token.toList) : bare label token = token := by
  have kept : trimStart token.toList = token.toList :=
    trimStart_of_solid _ fun char first => solid char (List.mem_of_head? first)
  cases after : afterFront? label.toList token.toList with
  | some rest =>
      rw [afterFront?_eq_some_iff] at after
      exact absurd ⟨rest, after.symm⟩ apart
  | none => rw [bare, trim_token token solid, after, Option.getD_none, kept, String.ofList_toList]

variable (filled : token.toList ≠ [])

include filled

theorem bare_of_comesOff (off : ComesOff label) : bare label (label ++ token) = token := by
  rcases off with whole | blank
  · exact bare_append label token filled solid whole
  · have trimmed : trim (label ++ token).toList = trim token.toList := by
      rw [String.toList_append, trim_append _ _ filled solid, blank, List.nil_append,
        trim_token token solid]
    have same : bare label (label ++ token) = bare label token := by
      rw [bare, bare, trimmed]
    rw [same]
    by_cases front : label.toList <+: token.toList
    · -- A front of the token holds no blank, so this label is empty.
      have solidFront : ∀ char ∈ label.toList, isBlank char = false := fun char member =>
        solid char (front.subset member)
      rw [trimStart_of_solid _ fun char first => solidFront char (List.mem_of_head? first)] at blank
      rw [bare_of_front label token solid token.toList (by rw [blank, List.nil_append]),
        String.ofList_toList]
    · exact bare_of_apart label token solid front

/-- A blank at its front keeps the rest of the label on the token. -/
theorem bare_of_stuck (stuck : ¬ ComesOff label) :
    bare label (label ++ token) = String.ofList (trimStart label.toList ++ token.toList) := by
  rw [ComesOff, not_or] at stuck
  obtain ⟨char, others, left⟩ := List.exists_cons_of_ne_nil stuck.2
  have first := solid_of_trimStart label.toList char others left
  have apart : afterFront? label.toList (trimStart label.toList ++ token.toList) = none := by
    cases after : afterFront? label.toList (trimStart label.toList ++ token.toList) with
    | none => rfl
    | some rest =>
        -- The label would start with the solid character too.
        rw [afterFront?_eq_some_iff, left] at after
        cases chars : label.toList with
        | nil =>
            rw [chars] at left
            cases left
        | cons head tail =>
            rw [chars, List.cons_append, List.cons_append, List.cons.injEq] at after
            obtain ⟨rfl, -⟩ := after
            have whole : trimStart label.toList = label.toList := by
              rw [chars, trimStart_of_head first]
            exact absurd whole stuck.1
  rw [bare, String.toList_append, trim_append _ _ filled solid, apart, Option.getD_none,
    trimStart_append _ _ solid, left, trimStart_of_head first]

end

/-! ## What stays on a token -/

theorem Segments.of?_append (front chars : List Char) (segments : Segments)
    (split : Segments.of? chars = some segments) :
    Segments.of? (front ++ chars) =
      some ⟨front ++ segments.header, segments.payload, segments.signature⟩ := by
  rw [Segments.of?_eq_some_iff] at split ⊢
  obtain ⟨whole, payload, signature⟩ := split
  refine ⟨?_, payload, signature⟩
  rw [whole]
  simp [Segments.chars, Segments.signed]

theorem algorithm?_drop (count : Nat) (positive : 0 < count) :
    algorithm? ((segment headerText).drop count) ≠ some .hs256 := by
  have within : ∀ less < 36, algorithm? ((segment headerText).drop (less + 1)) ≠ some .hs256 := by
    decide +kernel
  by_cases small : count ≤ 36
  · have found := within (count - 1) (by omega)
    rwa [Nat.sub_add_cancel positive] at found
  · have whole : (segment headerText).length ≤ 36 := by decide +kernel
    rw [List.drop_eq_nil_of_le (by omega)]
    decide +kernel

section

variable {γ : Type} [Claims γ]

/-- Characters in front of signed claims go unnoticed: the header can be read with them, and the code
is still the right one. -/
structure Unnoticed (front : List Char) (claims : γ) (secret : Secret) : Prop where
  header : algorithm? (front ++ segment headerText) = some .hs256
  code : mac secret (front ++ signedText claims) = mac secret (signedText claims)

theorem authenticate_shortened (claims : γ) (secret other : Secret) (front rest : List Char)
    (token : (encode claims secret).toList = front ++ rest) (shorter : front ≠ []) (found : γ) :
    authenticate (String.ofList rest) other ≠ .ok found := by
  intro authentic
  rw [authenticate_eq_ok_iff, String.toList_ofList] at authentic
  obtain ⟨segments, split, header, -⟩ := authentic
  have whole := Segments.of?_append front rest segments split
  rw [← token, segments_encode, Option.some.injEq, Segments.mk.injEq] at whole
  have left : segments.header = (segment headerText).drop front.length := by
    rw [whole.1, List.drop_left]
  rw [left] at header
  exact algorithm?_drop front.length (List.length_pos_iff.mpr shorter) header

variable [RecordClaims γ] (claims : γ) (secret : Secret)
  (ofKind : Claims.kind claims = Claims.expected γ) (dated : 0 ≤ (Claims.expiresAt claims).toInt)

include ofKind dated

theorem authenticate_behind_iff (front : List Char) (found : γ) :
    authenticate (String.ofList (front ++ (encode claims secret).toList)) secret = .ok found ↔
      Unnoticed front claims secret ∧ found = claims := by
  have split : Segments.of? (front ++ (encode claims secret).toList) =
      some ⟨front ++ segment headerText, segment (Claims.write claims).text,
        Base64.encode .urlSafe (mac secret (signedText claims))⟩ :=
    Segments.of?_append front _ _ (segments_encode claims secret)
  have signature := Base64.decode_encode .urlSafe (mac secret (signedText claims))
  have payload : claims? (segment (Claims.write claims).text) = some claims := by
    rw [claims?_segment, if_pos dated]
  have signed : (⟨front ++ segment headerText, segment (Claims.write claims).text,
      Base64.encode .urlSafe (mac secret (signedText claims))⟩ : Segments).signed =
        front ++ signedText claims := by
    simp [Segments.signed, signedText]
  rw [authenticate_eq_ok_iff, String.toList_ofList]
  constructor
  · rintro ⟨segments, cut, header, code, read, -⟩
    rw [split, Option.some.injEq] at cut
    subst cut
    dsimp only at header code read
    rw [signature, signed, Option.some.injEq] at code
    rw [payload, Option.some.injEq] at read
    exact ⟨⟨header, code.symm⟩, read.symm⟩
  · rintro ⟨unnoticed, rfl⟩
    refine ⟨_, split, unnoticed.header, ?_, payload, ofKind⟩
    rw [signed, unnoticed.code]
    exact signature

end

/-! ## Who is let in -/

section

variable {γ : Type} [Claims γ]

/-- The presented token is taken for one of the identity. -/
def Accepts (γ : Type) [Claims γ] (label presented secret : String) (now : Instant) (id : Uuid) :
    Prop :=
  ∃ claims : γ, verify label presented secret now = .ok claims ∧ Claims.subject claims = id

variable (label : String) (claims : γ) (secret : Secret) (now : Instant)

theorem authentic_of_verify (presented : String)
    (verified : verify label presented secret.text now = .ok claims) :
    authenticate (bare label presented) secret = .ok claims := by
  obtain ⟨⟨text, signs⟩, same, authentic, -⟩ :=
    (verify_eq_ok_iff label presented _ now claims).mp verified
  subst same
  exact authentic

variable (live : now.seconds < (Claims.expiresAt claims).toInt)

include live

theorem accepts_of_authentic (presented : String)
    (authentic : authenticate (bare label presented) secret = .ok claims) :
    Accepts γ label presented secret.text now (Claims.subject claims) :=
  ⟨claims, (verify_eq_ok_iff label presented _ now claims).mpr ⟨secret, rfl, authentic, live⟩, rfl⟩

variable [RecordClaims γ] (ofKind : Claims.kind claims = Claims.expected γ)
  (dated : 0 ≤ (Claims.expiresAt claims).toInt)

include ofKind dated

theorem accepts_labelled_iff :
    Accepts γ label (label ++ encode claims secret) secret.text now (Claims.subject claims) ↔
      ComesOff label ∨ Unnoticed (trimStart label.toList) claims secret := by
  have solid := encode_solid claims secret
  have filled := encode_filled claims secret
  by_cases off : ComesOff label
  · have spelled := bare_of_comesOff label _ solid filled off
    have authentic := authenticate_encode claims secret ofKind dated
    rw [← spelled] at authentic
    exact iff_of_true (accepts_of_authentic label claims secret now live _ authentic) (Or.inl off)
  · have spelled := bare_of_stuck label _ solid filled off
    constructor
    · rintro ⟨found, verified, -⟩
      have authentic := authentic_of_verify label found secret now _ verified
      rw [spelled, authenticate_behind_iff claims secret ofKind dated] at authentic
      exact Or.inr authentic.1
    · intro condition
      have unnoticed := condition.resolve_left off
      have authentic := (authenticate_behind_iff claims secret ofKind dated _ claims).mpr
        ⟨unnoticed, rfl⟩
      rw [← spelled] at authentic
      exact accepts_of_authentic label claims secret now live _ authentic

theorem accepts_plain_iff :
    Accepts γ label (encode claims secret) secret.text now (Claims.subject claims) ↔
      (label.toList <+: (encode claims secret).toList → label = "") := by
  have solid := encode_solid claims secret
  have whole : bare label (encode claims secret) = encode claims secret →
      Accepts γ label (encode claims secret) secret.text now (Claims.subject claims) := by
    intro spelled
    have authentic := authenticate_encode claims secret ofKind dated
    rw [← spelled] at authentic
    exact accepts_of_authentic label claims secret now live _ authentic
  by_cases front : label.toList <+: (encode claims secret).toList
  · obtain ⟨rest, token⟩ := front
    have spelled := bare_of_front label _ solid rest token.symm
    constructor
    · rintro ⟨found, verified, -⟩ -
      by_contra labelled
      have authentic := authentic_of_verify label found secret now _ verified
      rw [spelled] at authentic
      exact authenticate_shortened claims secret secret label.toList rest token.symm
        (String.toList_eq_nil_iff.not.mpr labelled) found authentic
    · intro condition
      obtain rfl := condition ⟨rest, token⟩
      refine whole ?_
      rw [spelled, ← String.ofList_toList (s := encode claims secret), ← token]
      rfl
  · exact iff_of_true (whole (bare_of_apart label _ solid front)) fun there => absurd there front

end

/-! ## The tokens of a server -/

theorem secrets_of_validate (settings : Config.Settings) (valid : settings.validate = .ok ()) :
    settings.auth.tokens.accessSecret ≠ "" ∧ settings.auth.tokens.refreshSecret ≠ "" := by
  rw [Config.Settings.validate] at valid
  by_cases missing : settings.auth.accessTokenSecret = "" ∨ settings.auth.refreshTokenSecret = ""
  · simp only [if_pos missing] at valid
    cases valid
  · exact not_or.mp missing

/-- What a server that uses `label` makes of a token that it signed from `claims`, as long as the
token has not expired.  With the label the token is taken exactly if the label comes off, or what
is left of it goes unnoticed; without the label, exactly if it does not start like the label. -/
structure TakesBack {γ : Type} [Claims γ] (label : String) (claims : γ) (secret : Secret) : Prop where
  labelled : ∀ now : Instant, now.seconds < (Claims.expiresAt claims).toInt →
    (Accepts γ label (label ++ encode claims secret) secret.text now (Claims.subject claims) ↔
      ComesOff label ∨ Unnoticed (trimStart label.toList) claims secret)
  plain : ∀ now : Instant, now.seconds < (Claims.expiresAt claims).toInt →
    (Accepts γ label (encode claims secret) secret.text now (Claims.subject claims) ↔
      (label.toList <+: (encode claims secret).toList → label = ""))

theorem takesBack {γ : Type} [Claims γ] [RecordClaims γ] (label : String) (claims : γ)
    (secret : Secret) (ofKind : Claims.kind claims = Claims.expected γ)
    (dated : 0 ≤ (Claims.expiresAt claims).toInt) : TakesBack label claims secret where
  labelled now live := accepts_labelled_iff label claims secret now live ofKind dated
  plain now live := accepts_plain_iff label claims secret now live ofKind dated

/-- Every token starts with an `e`, so only a label that does so too can be mistaken for its start. -/
theorem head_of_front {γ : Type} [Claims γ] (claims : γ) (secret : Secret) (label : String)
    (front : label.toList <+: (encode claims secret).toList) (labelled : label ≠ "") :
    label.toList.head? = some 'e' := by
  have first : (segment headerText).head? = some 'e' := by decide +kernel
  have token : (encode claims secret).toList.head? = some 'e' := by
    simp [encode, List.head?_append, first]
  obtain ⟨rest, whole⟩ := front
  cases chars : label.toList with
  | nil => exact absurd (String.toList_eq_nil_iff.mp chars) labelled
  | cons char others =>
      rw [← whole, chars] at token
      exact token

/-- Under settings that are in order, a pair is issued whenever its expiries are dates from 1970 on,
and which of its tokens the same settings take back, in which form, is decided by the label. -/
theorem own_tokens_accepted_iff (settings : Config.Settings) (valid : settings.validate = .ok ())
    (principal : Principal) (issuedAt accessEnd refreshEnd : Instant)
    (accessFound : expiry issuedAt settings.auth.tokens.accessHours = .ok accessEnd)
    (refreshFound : expiry issuedAt settings.auth.tokens.refreshHours = .ok refreshEnd)
    (accessDated : 0 ≤ accessEnd.seconds) (refreshDated : 0 ≤ refreshEnd.seconds) :
    ∃ access refresh : Secret, access.text = settings.auth.tokens.accessSecret ∧
      refresh.text = settings.auth.tokens.refreshSecret ∧
      issuePair settings.auth.tokenLabel principal settings.auth.tokens issuedAt =
        .ok ⟨settings.auth.tokenLabel ++ encode (accessClaims principal issuedAt accessEnd) access,
          settings.auth.tokenLabel ++ encode (refreshClaims principal issuedAt refreshEnd) refresh,
          accessEnd, refreshEnd⟩ ∧
      TakesBack settings.auth.tokenLabel (accessClaims principal issuedAt accessEnd) access ∧
      TakesBack settings.auth.tokenLabel (refreshClaims principal issuedAt refreshEnd) refresh := by
  obtain ⟨accessSigns, refreshSigns⟩ := secrets_of_validate settings valid
  refine ⟨⟨_, accessSigns⟩, ⟨_, refreshSigns⟩, rfl, rfl, ?_, ?_, ?_⟩
  · rw [issuePair_eq_ok_iff]
    exact ⟨accessFound, refreshFound, ⟨_, rfl, rfl⟩, ⟨_, rfl, rfl⟩⟩
  · refine takesBack _ _ _ rfl ?_
    rw [accessClaims_ends]
    exact accessDated
  · refine takesBack _ _ _ rfl ?_
    rw [refreshClaims_ends]
    exact refreshDated

/-- Under the built-in settings Ada's access token is taken with its label and without. -/
theorem own_tokens_accepted_iff_bearer :
    let settings : Config.Settings := { }
    let ada : Principal := ⟨⟨7⟩, "ada"⟩
    let accessEnd : Instant := ⟨7200, 0, by decide, by decide, by decide⟩
    let refreshEnd : Instant := ⟨604800, 0, by decide, by decide, by decide⟩
    settings.validate = .ok () ∧ expiry .epoch settings.auth.tokens.accessHours = .ok accessEnd ∧
      expiry .epoch settings.auth.tokens.refreshHours = .ok refreshEnd ∧
      ∃ pair token, issuePair "Bearer " ada settings.auth.tokens .epoch = .ok pair ∧
        pair.accessToken = "Bearer " ++ token ∧
        Accepts AccessClaims "Bearer " pair.accessToken settings.auth.tokens.accessSecret .epoch
          ada.id ∧
        Accepts AccessClaims "Bearer " token settings.auth.tokens.accessSecret .epoch ada.id := by
  intro settings ada accessEnd refreshEnd
  have accessFound : expiry .epoch settings.auth.tokens.accessHours = .ok accessEnd :=
    expiry_of_later .epoch accessEnd 2 (by decide +kernel)
  have refreshFound : expiry .epoch settings.auth.tokens.refreshHours = .ok refreshEnd :=
    expiry_of_later .epoch refreshEnd 168 (by decide +kernel)
  obtain ⟨access, refresh, text, -, issued, takes, -⟩ := own_tokens_accepted_iff settings rfl ada
    .epoch accessEnd refreshEnd accessFound refreshFound (by decide) (by decide)
  have live : Instant.epoch.seconds <
      (Claims.expiresAt (accessClaims ada .epoch accessEnd)).toInt := by decide
  have off : ComesOff "Bearer " := by decide +kernel
  have apart : "Bearer ".toList <+: (encode (accessClaims ada .epoch accessEnd) access).toList →
      "Bearer " = "" := by
    intro front
    have first := head_of_front _ access "Bearer " front (by decide)
    revert first
    decide
  refine ⟨rfl, accessFound, refreshFound, _, _, issued, rfl, ?_, ?_⟩
  · rw [← text]
    exact (takes.labelled .epoch live).mpr (Or.inl off)
  · rw [← text]
    exact (takes.plain .epoch live).mpr apart

/-- Settings whose label starts with a blank are in order, and refuse the access token that they have
just issued. -/
theorem own_tokens_refused_blank :
    let settings : Config.Settings := ⟨{ }, ⟨"s", "t", 1, 1, " Bearer "⟩, { }, { }, { }, { }⟩
    let alice : Principal := ⟨⟨0x0b0e7d7c51a34c3e9c5a6a1f0e2d3c4b⟩, "alice"⟩
    let issuedAt : Instant := ⟨1700000000, 0, by decide, by decide, by decide⟩
    let expires : Instant := ⟨1700003600, 0, by decide, by decide, by decide⟩
    settings.validate = .ok () ∧ expiry issuedAt 1 = .ok expires ∧
      issuedAt.seconds < expires.seconds ∧
      ∃ pair, issuePair settings.auth.tokenLabel alice settings.auth.tokens issuedAt = .ok pair ∧
        ¬ Accepts AccessClaims settings.auth.tokenLabel pair.accessToken
          settings.auth.tokens.accessSecret issuedAt alice.id := by
  intro settings alice issuedAt expires
  have found : expiry issuedAt 1 = .ok expires :=
    expiry_of_later issuedAt expires 1 (by decide +kernel)
  have signed : SignedFor " Bearer " settings.auth.tokens alice issuedAt
      ⟨" Bearer " ++ encode (accessClaims alice issuedAt expires) ⟨"s", by decide⟩,
        " Bearer " ++ encode (refreshClaims alice issuedAt expires) ⟨"t", by decide⟩, expires,
        expires⟩ :=
    ⟨found, found, ⟨_, rfl, rfl⟩, ⟨_, rfl, rfl⟩⟩
  refine ⟨rfl, found, by decide, _, (issuePair_eq_ok_iff _ _ _ _ _).mpr signed, fun accepted => ?_⟩
  have dated : 0 ≤ (Claims.expiresAt (accessClaims alice issuedAt expires)).toInt := by decide
  have live : issuedAt.seconds <
      (Claims.expiresAt (accessClaims alice issuedAt expires)).toInt := by decide
  have condition := (accepts_labelled_iff " Bearer " (accessClaims alice issuedAt expires)
    ⟨"s", by decide⟩ issuedAt live rfl dated).mp accepted
  rcases condition with off | unnoticed
  · revert off
    decide +kernel
  · have header := unnoticed.header
    revert header
    decide +kernel

end Gatehouse.Token

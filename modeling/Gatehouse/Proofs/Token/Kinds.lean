import Gatehouse.Proofs.Token.Issuing
import Gatehouse.Proofs.Token.Authenticity

/-!
# A token has one kind

Refresh claims are access claims without a name, so a payload may well hold the
fields of both.  But either reader takes the kind from the only member `typ` of
the payload (`Kinded`), and each accepts its own kind only.  So no token is
accepted as both, whatever it is signed with and whenever it is looked at
(`authenticate_apart`).
-/

set_option autoImplicit false

namespace Gatehouse.Token

/-! ## The kind in a payload -/

theorem lookup_collectMembers (fields : List Json.Field) (name : String)
    (known : (fields.find? fun field => field.name == name).isSome) (found result : Json.Found)
    (members : List (List UInt8 × Json.Outline))
    (collected : Json.collectMembers fields found members = .ok result) :
    (result.lookup name).toList = (found.lookup name).toList ++ membersNamed name members := by
  induction members generalizing found with
  | nil =>
      cases collected
      simp [membersNamed]
  | cons member rest ih =>
      obtain ⟨raw, value⟩ := member
      simp only [Json.collectMembers] at collected
      cases spelled : Json.rawText? raw with
      | none =>
          rw [spelled] at collected
          cases collected
      | some label =>
          simp only [spelled] at collected
          have named : membersNamed name ((raw, value) :: rest) =
              if label = name then value :: membersNamed name rest
              else membersNamed name rest := by
            by_cases same : label = name <;> simp [membersNamed, spelled, same]
          cases field : fields.find? fun field => field.name == label with
          | none =>
              have differs : label ≠ name := by
                rintro rfl
                rw [field] at known
                cases known
              simp only [field] at collected
              split at collected
              · rw [named, if_neg differs]
                exact ih found collected
              · cases collected
          | some own =>
              simp only [field] at collected
              split at collected
              · cases collected
              · rename_i fresh
                obtain ⟨_, _, collected⟩ := (bind_eq_ok_iff _ _ _).mp collected
                have tail := ih _ collected
                rw [List.lookup_cons] at tail
                by_cases same : label = name
                · subst same
                  rw [Option.not_isSome_iff_eq_none] at fresh
                  rw [named, if_pos rfl, fresh, tail]
                  simp
                · rw [beq_false_of_ne fun other => same other.symm] at tail
                  rw [named, if_neg same, tail]

theorem kind_of_collected (title : String) (fields : List Json.Field)
    (known : (fields.find? fun field => field.name == "typ").isSome)
    (members : List (List UInt8 × Json.Outline)) (closed : Bool) (found : Json.Found)
    (collected : Json.collect title fields (.object members closed) = .ok found)
    (kind : TokenKind) (read : found.read "typ" readTokenKind = .ok kind) :
    ∃ value, membersNamed "typ" members = [value] ∧ readTokenKind value = .ok kind := by
  rw [Json.collect, bind_eq_ok_iff] at collected
  obtain ⟨all, gathered, whole⟩ := collected
  have same : all = found := by
    split at whole
    · obtain ⟨_, _, same⟩ := (bind_eq_ok_iff _ _ _).mp whole
      exact Except.ok.inj same
    · cases whole
  subst same
  have only := lookup_collectMembers fields "typ" known [] all members gathered
  rw [Json.Found.read] at read
  cases held : all.lookup "typ" with
  | none =>
      rw [held] at read
      cases read
  | some value =>
      rw [held] at read only
      exact ⟨value, only.symm, read⟩

/-- Claims that take their kind from the only member `typ` of a payload. -/
class Kinded (γ : Type) [Claims γ] : Prop where
  kind_of_read (members : List (List UInt8 × Json.Outline)) (closed : Bool) (claims : γ)
    (read : Claims.read (.object members closed) = .ok claims) :
    ∃ value, membersNamed "typ" members = [value] ∧
      readTokenKind value = .ok (Claims.kind claims)

instance : Kinded AccessClaims where
  kind_of_read members closed claims read := by
    simp only [Claims.read, AccessClaims.read, bind_eq_ok_iff, Except.ok.injEq] at read
    obtain ⟨found, collected, _, _, _, _, _, _, _, _, kind, kindRead, rfl⟩ := read
    exact kind_of_collected _ _ (by decide) members closed found collected kind kindRead

instance : Kinded RefreshClaims where
  kind_of_read members closed claims read := by
    simp only [Claims.read, RefreshClaims.read, bind_eq_ok_iff, Except.ok.injEq] at read
    obtain ⟨found, collected, _, _, _, _, _, _, kind, kindRead, rfl⟩ := read
    exact kind_of_collected _ _ (by decide) members closed found collected kind kindRead

section

variable {γ δ : Type} [Claims γ] [Claims δ]

theorem signs_of_verify (label presented secret : String) (now : Instant) (claims : γ)
    (verified : verify label presented secret now = .ok claims) : secret ≠ "" := by
  obtain ⟨signing, rfl, -⟩ := (verify_eq_ok_iff label presented secret now claims).mp verified
  exact signing.nonempty

theorem object_of_claims? (payload : List Char) (claims : γ)
    (read : claims? payload = some claims) :
    ∃ data members closed, Base64.decode .urlSafe payload = some data ∧
      (Json.Outline.Document.ofBytes data).root = .object members closed ∧
        Claims.read (.object members closed) = .ok claims := by
  simp only [claims?, Option.bind_eq_bind, Option.bind_eq_some_iff] at read
  obtain ⟨data, decoded, found, document, accepted⟩ := read
  split at accepted
  · rename_i fine
    cases Option.some.inj accepted
    rw [toOption_eq_some_iff, readDocument_eq_ok_iff] at document
    cases root : (Json.Outline.Document.ofBytes data).root with
    | object members closed =>
        rw [root] at document
        exact ⟨data, members, closed, decoded, root, document.1⟩
    | _ =>
        -- only an object can have its registered claims in order
        rw [root] at fine
        cases fine.1
  · cases accepted

variable [Kinded γ] [Kinded δ]

/-- One payload has one kind, as whichever claims it is read. -/
theorem kind_eq_of_claims? (payload : List Char) (one : γ) (other : δ)
    (asOne : claims? payload = some one) (asOther : claims? payload = some other) :
    Claims.kind one = Claims.kind other := by
  obtain ⟨data, members, closed, decoded, root, read⟩ := object_of_claims? payload one asOne
  obtain ⟨_, _, _, decodedAgain, rootAgain, readAgain⟩ := object_of_claims? payload other asOther
  rw [decoded] at decodedAgain
  cases Option.some.inj decodedAgain
  rw [root] at rootAgain
  cases rootAgain
  obtain ⟨value, only, kind⟩ := Kinded.kind_of_read members closed one read
  obtain ⟨_, onlyAgain, kindAgain⟩ := Kinded.kind_of_read members closed other readAgain
  rw [only] at onlyAgain
  cases onlyAgain
  rw [kind] at kindAgain
  exact Except.ok.inj kindAgain

/-! ## Tokens of one kind refused as the other -/

variable (apart : Claims.expected γ ≠ Claims.expected δ)

include apart

theorem authenticate_apart (token : String) (secret another : Secret) (claims : γ)
    (authentic : authenticate token secret = .ok claims) :
    ∃ failure, (authenticate token another : Except Failure δ) = .error failure ∧
      (failure.kind = .malformed ∨ failure.kind = .invalidSignature) := by
  cases outcome : (authenticate token another : Except Failure δ) with
  | error failure => exact ⟨failure, rfl, kind_of_authenticate_error token another failure outcome⟩
  | ok others =>
      obtain ⟨segments, split, _, _, read, ofKind⟩ :=
        (authenticate_eq_ok_iff token secret claims).mp authentic
      obtain ⟨_, splitAgain, _, _, readAgain, ofOther⟩ :=
        (authenticate_eq_ok_iff token another others).mp outcome
      rw [split] at splitAgain
      cases Option.some.inj splitAgain
      have same := kind_eq_of_claims? segments.payload claims others read readAgain
      rw [ofKind, ofOther] at same
      exact absurd same apart

/-- What verifies as one kind at some instant verifies as another at none. -/
theorem verify_apart (label presented secret : String) (now : Instant) (claims : γ)
    (verified : verify label presented secret now = .ok claims) (another : String)
    (signs : another ≠ "") (later : Instant) :
    ∃ failure, (verify label presented another later : Outcome δ) = .error (.failure failure) ∧
      (failure.kind = .malformed ∨ failure.kind = .invalidSignature) := by
  obtain ⟨signing, rfl, authentic, -⟩ :=
    (verify_eq_ok_iff label presented secret now claims).mp verified
  obtain ⟨failure, refused, ofKind⟩ :=
    authenticate_apart apart (bare label presented) signing ⟨another, signs⟩ claims authentic
  refine ⟨failure, ?_, ofKind⟩
  rw [verify, (Secret.ofText_eq_ok_iff another ⟨another, signs⟩).mpr rfl, ok_bind, decode, refused]
  rfl

end

end Gatehouse.Token

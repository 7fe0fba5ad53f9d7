import Gatehouse.Proofs.Json.Records
import Gatehouse.Proofs.Text.Base64
import Gatehouse.Proofs.Uuid
import Gatehouse.Token.Codec

/-!
# Payloads

Both kinds of claims are written as a record and read back from it unchanged.
What signing and verifying need of them is the class `RecordClaims`: the payload
is read as the claims it was written from, and none of its members is one of the
registered claims that would refuse it.
-/

set_option autoImplicit false

namespace Gatehouse

open Json (Scalar)

/-! ## Single claims -/

@[simp] theorem Json.readUuid_text (id : Uuid) :
    Json.readUuid (Scalar.text id.text).outline = .ok id := by
  have read := Json.readText_text id.text
  rw [Scalar.outline] at read
  simp [Scalar.outline, Json.readUuid, read, bind, Except.bind]

@[simp] theorem readTokenKind_text (kind : TokenKind) :
    readTokenKind (Scalar.text kind.claim).outline = .ok kind := by
  have read := Json.readText_text kind.claim
  rw [Scalar.outline] at read
  simp [Scalar.outline, readTokenKind, read, bind, Except.bind, TokenKind.ofClaim?_claim]

@[simp] theorem readTime_int (value : Int64) :
    readTime (Scalar.int value.toInt).outline = .ok value := by
  rw [readTime, Json.readInt64_int]
  simp [Except.map]

/-! ## Claims as records -/

namespace AccessClaims

def record (claims : AccessClaims) : Json.Record :=
  [("sub", .text claims.subject.text), ("name", .text claims.name),
    ("iat", .int claims.issuedAt.toInt), ("exp", .int claims.expiresAt.toInt),
    ("typ", .text claims.kind.claim)]

theorem record_distinct (claims : AccessClaims) : (claims.record.map Prod.fst).Nodup := by
  simp [record]

theorem collect_record (claims : AccessClaims) :
    Json.collect "access claims" fields (.object claims.record.members true) =
      .ok claims.record.found := by
  refine Json.collect_aligned _ fields claims.record (by simp [fields, record, Json.Field.required])
    claims.record_distinct ?_
  simp [fields, record, Json.Field.required, Except.map]

theorem read_record (claims : AccessClaims) :
    read (.object claims.record.members true) = .ok claims := by
  have distinct := claims.record_distinct
  have subject : claims.record.found.read "sub" Json.readUuid = .ok claims.subject := by
    rw [Json.Record.read_found _ distinct _ _ (.text claims.subject.text) (by simp [record]),
      Json.readUuid_text]
  have name : claims.record.found.read "name" Json.readText = .ok claims.name := by
    rw [Json.Record.read_found _ distinct _ _ (.text claims.name) (by simp [record]),
      Json.readText_text]
  have issuedAt : claims.record.found.read "iat" readTime = .ok claims.issuedAt := by
    rw [Json.Record.read_found _ distinct _ _ (.int claims.issuedAt.toInt) (by simp [record]),
      readTime_int]
  have expiresAt : claims.record.found.read "exp" readTime = .ok claims.expiresAt := by
    rw [Json.Record.read_found _ distinct _ _ (.int claims.expiresAt.toInt) (by simp [record]),
      readTime_int]
  have kind : claims.record.found.read "typ" readTokenKind = .ok claims.kind := by
    rw [Json.Record.read_found _ distinct _ _ (.text claims.kind.claim) (by simp [record]),
      readTokenKind_text]
  rw [read, claims.collect_record]
  simp only [bind, Except.bind, subject, name, issuedAt, expiresAt, kind]

end AccessClaims

namespace RefreshClaims

def record (claims : RefreshClaims) : Json.Record :=
  [("sub", .text claims.subject.text), ("iat", .int claims.issuedAt.toInt),
    ("exp", .int claims.expiresAt.toInt), ("typ", .text claims.kind.claim)]

theorem record_distinct (claims : RefreshClaims) : (claims.record.map Prod.fst).Nodup := by
  simp [record]

theorem collect_record (claims : RefreshClaims) :
    Json.collect "refresh claims" fields (.object claims.record.members true) =
      .ok claims.record.found := by
  refine Json.collect_aligned _ fields claims.record (by simp [fields, record, Json.Field.required])
    claims.record_distinct ?_
  simp [fields, record, Json.Field.required, Except.map]

theorem read_record (claims : RefreshClaims) :
    read (.object claims.record.members true) = .ok claims := by
  have distinct := claims.record_distinct
  have subject : claims.record.found.read "sub" Json.readUuid = .ok claims.subject := by
    rw [Json.Record.read_found _ distinct _ _ (.text claims.subject.text) (by simp [record]),
      Json.readUuid_text]
  have issuedAt : claims.record.found.read "iat" readTime = .ok claims.issuedAt := by
    rw [Json.Record.read_found _ distinct _ _ (.int claims.issuedAt.toInt) (by simp [record]),
      readTime_int]
  have expiresAt : claims.record.found.read "exp" readTime = .ok claims.expiresAt := by
    rw [Json.Record.read_found _ distinct _ _ (.int claims.expiresAt.toInt) (by simp [record]),
      readTime_int]
  have kind : claims.record.found.read "typ" readTokenKind = .ok claims.kind := by
    rw [Json.Record.read_found _ distinct _ _ (.text claims.kind.claim) (by simp [record]),
      readTokenKind_text]
  rw [read, claims.collect_record]
  simp only [bind, Except.bind, subject, issuedAt, expiresAt, kind]

end RefreshClaims

/-! ## Written payloads -/

/-- Claims that are written as a record without registered members, and read back from it. -/
class RecordClaims (γ : Type) [Claims γ] where
  record : γ → Json.Record
  write_eq (claims : γ) : Claims.write claims = (record claims).json
  nonempty (claims : γ) : record claims ≠ []
  read_record (claims : γ) : Claims.read (.object (record claims).members true) = .ok claims
  unregistered (claims : γ) (name : String) (registered : name ∈ ["aud", "iss", "nbf"]) :
    name ∉ (record claims).map Prod.fst

instance : RecordClaims AccessClaims where
  record := AccessClaims.record
  write_eq _ := rfl
  nonempty _ := List.cons_ne_nil _ _
  read_record := AccessClaims.read_record
  unregistered claims name registered := by
    simp only [List.mem_cons, List.not_mem_nil, or_false] at registered
    rcases registered with rfl | rfl | rfl <;> simp [AccessClaims.record]

instance : RecordClaims RefreshClaims where
  record := RefreshClaims.record
  write_eq _ := rfl
  nonempty _ := List.cons_ne_nil _ _
  read_record := RefreshClaims.read_record
  unregistered claims name registered := by
    simp only [List.mem_cons, List.not_mem_nil, or_false] at registered
    rcases registered with rfl | rfl | rfl <;> simp [RefreshClaims.record]

namespace Token

theorem membersNamed_record (name : String) (record : Json.Record)
    (absent : name ∉ record.map Prod.fst) :
    membersNamed name record.members = [] := by
  rw [membersNamed, List.filterMap_eq_nil_iff]
  intro member inside
  obtain ⟨source, behind, rfl⟩ := List.mem_map.mp inside
  have differs : source.1 ≠ name := fun same => absent (List.mem_map.mpr ⟨source, behind, same⟩)
  simp [differs]

section

variable {γ : Type} [Claims γ] [RecordClaims γ]

theorem registeredAccepted_record (claims : γ) :
    registeredAccepted (.object (RecordClaims.record claims).members true) = true := by
  have noAudience := membersNamed_record "aud" _ (RecordClaims.unregistered claims "aud" (by simp))
  have noIssuer := membersNamed_record "iss" _ (RecordClaims.unregistered claims "iss" (by simp))
  have noStart := membersNamed_record "nbf" _ (RecordClaims.unregistered claims "nbf" (by simp))
  simp [registeredAccepted, noAudience, noIssuer, noStart, atMostOnce]

theorem claims?_segment (claims : γ) :
    claims? (segment (Claims.write claims).text) =
      if 0 ≤ (Claims.expiresAt claims).toInt then some claims else none := by
  have document := Json.Outline.Document.ofBytes_record (RecordClaims.record claims)
    (RecordClaims.nonempty claims)
  rw [← RecordClaims.write_eq] at document
  have read : (Json.readDocument Claims.read (Text.bytes (Claims.write claims).text)) =
      .ok claims := by
    rw [Json.readDocument, document]
    simp [bind, Except.bind, RecordClaims.read_record claims]
  simp [claims?, segment, Base64.decode_encode, read, document, registeredAccepted_record,
    Except.toOption]

end

end Token

end Gatehouse

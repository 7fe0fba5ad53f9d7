import Gatehouse.Proofs.Json.Numbers
import Gatehouse.Proofs.Json.Strings

/-!
# Written records are scanned whole

A record is an object whose members are texts and integers, which is what the
library signs and stores.  Its written text is scanned to the last byte, and the
outline has one member for each field, in order, with the name and the value
that were written (`Document.ofBytes_record`).
-/

set_option autoImplicit false

namespace Gatehouse.Json

open Gatehouse.Text

inductive Scalar
  | text (value : String)
  | int (value : Int)
  deriving DecidableEq, Repr

def Scalar.json : Scalar → Json
  | .text value => .str value
  | .int value => .int value

def Scalar.outline : Scalar → Outline
  | .text value => .string (spelled value)
  | .int value => .number (.ofInt value)

abbrev Record := List (String × Scalar)

namespace Record

def json (record : Record) : Json :=
  .obj (record.map fun member => (member.1, member.2.json))

def members (record : Record) : List (List UInt8 × Outline) :=
  record.map fun member => (spelled member.1, member.2.outline)

end Record

/-! ## One value -/

theorem skipBlanks_solid (byte : UInt8) (rest : List UInt8)
    (solid : Outline.isBlank byte = false) :
    Outline.skipBlanks (byte :: rest) = byte :: rest := by
  simp [Outline.skipBlanks, solid]

theorem scan_text (fuel : Nat) (value : String) (rest : List UInt8) :
    Outline.scan (fuel + 1) (utf8 (quoted value) ++ rest) =
      (.string (spelled value), some rest) := by
  rw [utf8_quoted, List.cons_append, List.append_assoc, List.singleton_append, Outline.scan,
    skipBlanks_solid _ _ (by decide)]
  simp [rawString_spelled, Outline.scalar]

theorem scan_natural (fuel value : Nat) (stop : UInt8) (rest : List UInt8)
    (ends : EndsMember stop) :
    Outline.scan (fuel + 1) (utf8 (Nat.toDigits 10 value) ++ stop :: rest) =
      (.number ⟨false, digitsOf value, none, none⟩, some (stop :: rest)) := by
  have bounds := fun char member => digit_bounds char value member
  cases shape : Nat.toDigits 10 value with
  | nil => exact absurd shape Nat.toDigits_ne_nil
  | cons char chars =>
      have member : char ∈ Nat.toDigits 10 value := by simp [shape]
      obtain ⟨least, most⟩ := bounds char member
      obtain ⟨digit, code⟩ := isDigit_ofNat char.toNat least most
      have whole := numeral_digits false value stop rest ends
      rw [shape, utf8_cons, utf8EncodeChar_of_lt char (by omega), List.singleton_append,
        List.cons_append] at whole
      have differs : ∀ byte : UInt8, (byte.toNat < 48 ∨ 57 < byte.toNat) →
          UInt8.ofNat char.toNat ≠ byte := by
        intro byte outside same
        rw [← same, code] at outside
        omega
      have solid : Outline.isBlank (UInt8.ofNat char.toNat) = false := by
        simp [Outline.isBlank, differs 0x20 (by decide), differs 0x0A (by decide),
          differs 0x0D (by decide), differs 0x09 (by decide)]
      rw [utf8_cons, utf8EncodeChar_of_lt char (by omega), List.singleton_append,
        List.cons_append, Outline.scan, skipBlanks_solid _ _ solid]
      simp only [if_neg (differs 0x22 (by decide)), if_neg (differs 0x7B (by decide)),
        if_neg (differs 0x5B (by decide)), if_neg (differs 0x2D (by decide)), digit, if_true]
      rw [whole]
      rfl

theorem scan_negative (fuel value : Nat) (stop : UInt8) (rest : List UInt8)
    (ends : EndsMember stop) :
    Outline.scan (fuel + 1) (0x2D :: (utf8 (Nat.toDigits 10 value) ++ stop :: rest)) =
      (.number ⟨true, digitsOf value, none, none⟩, some (stop :: rest)) := by
  rw [Outline.scan, skipBlanks_solid _ _ (by decide)]
  simp [numeral_digits true value stop rest ends, Outline.scalar]

theorem scan_scalar (fuel : Nat) (value : Scalar) (stop : UInt8) (rest : List UInt8)
    (ends : EndsMember stop) :
    Outline.scan (fuel + 1) (utf8 value.json.chars ++ stop :: rest) =
      (value.outline, some (stop :: rest)) := by
  cases value with
  | text value => exact scan_text fuel value _
  | int value =>
      cases value with
      | ofNat magnitude =>
          have written : utf8 (Scalar.int (.ofNat magnitude)).json.chars =
              utf8 (Nat.toDigits 10 magnitude) := by
            simp [Scalar.json, chars, intChars]
          rw [written, scan_natural fuel magnitude stop rest ends]
          simp [Scalar.outline, Numeral.ofInt]
      | negSucc magnitude =>
          have written : utf8 (Scalar.int (.negSucc magnitude)).json.chars =
              0x2D :: utf8 (Nat.toDigits 10 (magnitude + 1)) := by
            simp only [Scalar.json, chars, intChars, utf8_cons, Nat.toList_repr]
            rfl
          have negative : decide (Int.negSucc magnitude < 0) = true := by simp
          rw [written, List.cons_append, scan_negative fuel (magnitude + 1) stop rest ends,
            Scalar.outline, Numeral.ofInt, negative, Int.natAbs_negSucc]

/-! ## All members -/

theorem scanMembers_cons (fuel : Nat) (sofar : List (List UInt8 × Outline)) (name : String)
    (value : Scalar) (stop : UInt8) (rest : List UInt8) (ends : EndsMember stop) :
    Outline.scanMembers (fuel + 2) sofar
        (utf8 (quoted name) ++ 0x3A :: (utf8 value.json.chars ++ stop :: rest)) =
      if stop = 0x7D then
        (.object ((spelled name, value.outline) :: sofar).reverse true, some rest)
      else Outline.scanMembers (fuel + 1) ((spelled name, value.outline) :: sofar) rest := by
  rw [utf8_quoted, List.cons_append, List.append_assoc, List.singleton_append,
    Outline.scanMembers, skipBlanks_solid _ _ (by decide)]
  simp only [rawString_spelled, skipBlanks_solid 0x3A _ (by decide),
    scan_scalar fuel value stop rest ends]
  rcases ends with rfl | rfl
  · rw [skipBlanks_solid _ _ (by decide)]
    simp
  · rw [skipBlanks_solid _ _ (by decide)]
    simp

theorem scanMembers_record (record : Record) (nonempty : record ≠ []) (fuel : Nat)
    (sofar : List (List UInt8 × Outline)) (rest : List UInt8) (enough : record.length + 1 ≤ fuel) :
    Outline.scanMembers fuel sofar
        (utf8 (memberChars (record.map fun member => (member.1, member.2.json))) ++ rest) =
      (.object (sofar.reverse ++ record.members) true, some rest) := by
  induction record generalizing fuel sofar with
  | nil => exact absurd rfl nonempty
  | cons member record ih =>
      obtain ⟨fuel, rfl⟩ : ∃ less, fuel = less + 2 := ⟨fuel - 2, by simp at enough; omega⟩
      obtain ⟨name, value⟩ := member
      cases record with
      | nil =>
          have written : utf8 (memberChars [(name, value.json)]) ++ rest =
              utf8 (quoted name) ++ 0x3A :: (utf8 value.json.chars ++ 0x7D :: rest) := by
            simp only [memberChars, utf8_append, utf8_cons, List.append_assoc]
            rfl
          rw [List.map_singleton, written,
            scanMembers_cons fuel sofar name value 0x7D rest (Or.inr rfl), if_pos rfl]
          simp [Record.members]
      | cons next record =>
          have tailEnough : (next :: record).length + 1 ≤ fuel + 1 := by
            simp only [List.length_cons] at enough ⊢
            omega
          have written :
              utf8 (memberChars (((name, value) :: next :: record).map fun member =>
                (member.1, member.2.json))) ++ rest =
              utf8 (quoted name) ++ 0x3A :: (utf8 value.json.chars ++ 0x2C ::
                (utf8 (memberChars ((next :: record).map fun member =>
                  (member.1, member.2.json))) ++ rest)) := by
            simp only [List.map_cons, memberChars, utf8_append, utf8_cons, List.append_assoc]
            rfl
          rw [written, scanMembers_cons fuel sofar name value 0x2C _ (Or.inl rfl),
            if_neg (by decide), ih (by simp) (fuel + 1) _ tailEnough]
          simp [Record.members]

/-! ## Whole documents -/

theorem length_le_utf8_memberChars (members : List (String × Json)) :
    members.length + 1 ≤ (utf8 (memberChars members)).length := by
  induction members with
  | nil => decide
  | cons member members ih =>
      obtain ⟨name, value⟩ := member
      cases members with
      | nil =>
          simp only [memberChars, utf8_append, utf8_quoted, List.length_append, List.length_cons]
          omega
      | cons next members =>
          simp only [memberChars, utf8_append, utf8_cons, utf8_quoted, List.length_append,
            List.length_cons] at ih ⊢
          omega

theorem utf8_memberChars_cons (name : String) (value : Json) (rest : List (String × Json)) :
    ∃ tail, utf8 (memberChars ((name, value) :: rest)) = 0x22 :: tail := by
  cases rest with
  | nil => exact ⟨_, by simp only [memberChars, utf8_append, utf8_quoted, List.cons_append]; rfl⟩
  | cons next rest =>
      exact ⟨_, by simp only [memberChars, utf8_append, utf8_quoted, List.cons_append]; rfl⟩

/-- The written text of a record is one object with all its members. -/
theorem Outline.Document.ofBytes_record (record : Record) (nonempty : record ≠ []) :
    Outline.Document.ofBytes (bytes record.json.text) = ⟨.object record.members true, true⟩ := by
  have written : bytes record.json.text = 0x7B ::
      utf8 (memberChars (record.map fun member => (member.1, member.2.json))) := by
    rw [bytes_eq_utf8, Json.text, String.toList_ofList, Record.json, chars, utf8_cons]
    rfl
  obtain ⟨tail, opened⟩ : ∃ tail,
      utf8 (memberChars (record.map fun member => (member.1, member.2.json))) = 0x22 :: tail := by
    cases record with
    | nil => exact absurd rfl nonempty
    | cons member record => exact utf8_memberChars_cons _ _ _
  have least := length_le_utf8_memberChars (record.map fun member => (member.1, member.2.json))
  rw [List.length_map, opened] at least
  have scanned := scanMembers_record record nonempty (2 * (0x22 :: tail).length + 2) [] []
    (by omega)
  rw [List.append_nil, opened, List.reverse_nil, List.nil_append] at scanned
  have whole : Outline.scan (2 * (0x7B :: 0x22 :: tail).length + 1) (0x7B :: 0x22 :: tail) =
      (.object record.members true, some []) := by
    rw [Outline.scan, skipBlanks_solid _ _ (by decide)]
    simp only [skipBlanks_solid 0x22 tail (by decide)]
    exact scanned
  rw [written, opened, Outline.Document.ofBytes, whole]
  rfl

end Gatehouse.Json

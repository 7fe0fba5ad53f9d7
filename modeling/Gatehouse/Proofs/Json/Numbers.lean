import Gatehouse.Json
import Gatehouse.Json.Outline
import Gatehouse.Proofs.Text.Utf8

/-!
# Written integers are read back

An integer is written in decimal digits without zeros in front.  The scanner
takes all of them, up to the comma or brace that follows, and what they spell is
the integer again.
-/

set_option autoImplicit false

namespace Gatehouse.Json

open Gatehouse.Text

def EndsMember (byte : UInt8) : Prop := byte = 0x2C ∨ byte = 0x7D

def digitsOf (value : Nat) : List Nat :=
  (Nat.toDigits 10 value).map fun char => char.toNat - 48

def Numeral.ofInt (value : Int) : Numeral :=
  ⟨decide (value < 0), digitsOf value.natAbs, none, none⟩

/-! ## Digits -/

theorem digit_bounds (char : Char) (value : Nat) (member : char ∈ Nat.toDigits 10 value) :
    48 ≤ char.toNat ∧ char.toNat ≤ 57 := by
  have digit := Nat.isDigit_of_mem_toDigits (by decide) (by decide) member
  simp only [Char.isDigit, Bool.and_eq_true, decide_eq_true_eq, ge_iff_le,
    UInt32.le_iff_toNat_le] at digit
  exact digit

theorem utf8_digits (chars : List Char)
    (digits : ∀ char ∈ chars, 48 ≤ char.toNat ∧ char.toNat ≤ 57) :
    utf8 chars = chars.map fun char => UInt8.ofNat char.toNat := by
  induction chars with
  | nil => rfl
  | cons char chars ih =>
      have bounds := digits char (by simp)
      have tailDigits : ∀ other ∈ chars, 48 ≤ other.toNat ∧ other.toNat ≤ 57 := by
        intro other member
        exact digits other (by simp [member])
      rw [utf8_cons, utf8EncodeChar_of_lt char (by omega), ih tailDigits]
      rfl

theorem isDigit_ofNat (value : Nat) (least : 48 ≤ value) (most : value ≤ 57) :
    Outline.isDigit (UInt8.ofNat value) = true ∧ (UInt8.ofNat value).toNat = value := by
  have same : (UInt8.ofNat value).toNat = value := UInt8.toNat_ofNat_of_lt' (by show _ < 256; omega)
  refine ⟨?_, same⟩
  simp only [Outline.isDigit, Bool.and_eq_true, decide_eq_true_eq, UInt8.le_iff_toNat_le, same]
  exact ⟨least, most⟩

theorem digitRun_digits (value : Nat) (stop : UInt8) (rest : List UInt8)
    (stops : Outline.isDigit stop = false) :
    Outline.digitRun (utf8 (Nat.toDigits 10 value) ++ stop :: rest) =
      (digitsOf value, stop :: rest) := by
  have bounds := fun char member => digit_bounds char value member
  have allDigits : ∀ byte ∈ utf8 (Nat.toDigits 10 value), Outline.isDigit byte = true := by
    intro byte member
    rw [utf8_digits _ bounds, List.mem_map] at member
    obtain ⟨char, found, rfl⟩ := member
    obtain ⟨least, most⟩ := bounds char found
    exact (isDigit_ofNat _ least most).1
  rw [Outline.digitRun, List.takeWhile_append_of_pos allDigits,
    List.dropWhile_append_of_pos allDigits]
  simp only [List.takeWhile_cons, List.dropWhile_cons, stops, Bool.false_eq_true, if_false,
    List.append_nil, Prod.mk.injEq, and_true]
  rw [utf8_digits _ bounds, List.map_map, digitsOf]
  refine List.map_congr_left fun char member => ?_
  obtain ⟨least, most⟩ := bounds char member
  simp [(isDigit_ofNat _ least most).2]

theorem head_digitsOf_ne_zero (value : Nat) (positive : 0 < value) :
    ∃ digit rest, digitsOf value = digit :: rest ∧ digit ≠ 0 := by
  induction value using Nat.base_induction 10 (by decide) with
  | single value small =>
      refine ⟨value, [], ?_, by omega⟩
      have back := Nat.toNat_digitChar_sub_48_of_lt_ten small
      rw [digitsOf, Nat.toDigits_of_lt_base small, List.map_singleton, back]
  | digit front last small frontPositive ih =>
      obtain ⟨digit, rest, shape, nonzero⟩ := ih frontPositive
      refine ⟨digit, rest ++ (Nat.toDigits 10 last).map fun char => char.toNat - 48, ?_, nonzero⟩
      rw [digitsOf, ← Nat.toDigits_append_toDigits (by decide) frontPositive small, List.map_append]
      rw [digitsOf] at shape
      rw [shape, List.cons_append]

theorem ofDigits_digitsOf (value : Nat) : Numeral.ofDigits (digitsOf value) = value := by
  have back := Nat.ofDigitChars_ten_toDigits (n := value)
  have zero : '0'.toNat = 48 := rfl
  simp only [Nat.ofDigitChars_eq_foldl, zero, Nat.mul_comm 10] at back
  rw [Numeral.ofDigits, digitsOf, List.foldl_map, back]

/-! ## Integers -/

@[simp] theorem Numeral.integer?_ofInt (value : Int) :
    (Numeral.ofInt value).integer? = some value := by
  simp only [Numeral.integer?, Numeral.ofInt, ofDigits_digitsOf, decide_eq_true_eq]
  by_cases negative : value < 0
  · have nonzero : value.natAbs ≠ 0 := by omega
    have restored : -(value.natAbs : Int) = value := by omega
    rw [if_pos negative, if_neg nonzero, restored]
  · have restored : (value.natAbs : Int) = value := by omega
    rw [if_neg negative, restored]

theorem numeral_digits (negative : Bool) (value : Nat) (stop : UInt8) (rest : List UInt8)
    (ends : EndsMember stop) :
    Outline.numeral negative (utf8 (Nat.toDigits 10 value) ++ stop :: rest) =
      some (⟨negative, digitsOf value, none, none⟩, stop :: rest) := by
  have stops : Outline.isDigit stop = false := by
    rcases ends with rfl | rfl <;> decide
  have noFraction : Outline.fractionPart (stop :: rest) = some (none, stop :: rest) := by
    rcases ends with rfl | rfl <;> rfl
  have noExponent : Outline.exponentPart (stop :: rest) = some (none, stop :: rest) := by
    rcases ends with rfl | rfl <;> rfl
  have shape : ∃ digit tail, digitsOf value = digit :: tail ∧ (digit = 0 → tail = []) := by
    by_cases positive : 0 < value
    · obtain ⟨digit, tail, shape, nonzero⟩ := head_digitsOf_ne_zero value positive
      exact ⟨digit, tail, shape, fun zero => absurd zero nonzero⟩
    · have zero : value = 0 := by omega
      exact ⟨0, [], by rw [zero]; rfl, fun _ => rfl⟩
  obtain ⟨digit, tail, shape, single⟩ := shape
  rw [Outline.numeral, digitRun_digits value stop rest stops, shape]
  cases digit with
  | zero =>
      rw [single rfl]
      simp only [noFraction, noExponent, Option.bind_eq_bind, Option.bind_some]
  | succ digit =>
      simp only [noFraction, noExponent, Option.bind_eq_bind, Option.bind_some]

end Gatehouse.Json

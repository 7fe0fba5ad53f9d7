import Mathlib
import Gatehouse.Proofs.Text.Decimals

/-!
# Plain decimals

A decimal without an exponent and without needless zeros (`Plain`).  Putting a
point among the digits of a number, or zeros and a point before them, gives one,
and no other is one of the same number (`Plain.unique`).
-/

set_option autoImplicit false

namespace Gatehouse.Decimal

/-- Digits without needless zeros in front. -/
structure Whole (digits : List Char) : Prop where
  only : Digits digits
  least : digits.head? = some '0' → digits = ['0']

/-- A decimal without an exponent and without needless zeros. -/
inductive Plain : List Char → ℚ → Prop
  | whole {digits : List Char} (whole : Whole digits) : Plain digits (Nat.ofDigitChars 10 digits 0)
  | pointed {whole fraction : List Char} (before : Whole whole) (after : Digits fraction)
      (last : fraction.getLast? ≠ some '0') :
      Plain (whole ++ '.' :: fraction)
        (Nat.ofDigitChars 10 (whole ++ fraction) 0 / 10 ^ fraction.length)

/-! ## Digits of one number -/

theorem ofDigitChars_eq_add (chars : List Char) (sofar : Nat) :
    Nat.ofDigitChars 10 chars sofar =
      sofar * 10 ^ chars.length + Nat.ofDigitChars 10 chars 0 := by
  induction chars generalizing sofar with
  | nil => exact (Nat.mul_one sofar).symm
  | cons char rest ih =>
      rw [Nat.ofDigitChars_cons, Nat.ofDigitChars_cons, ih, ih (10 * 0 + _), List.length_cons,
        Nat.pow_succ]
      ring

theorem ofDigitChars_lt {chars : List Char} (digits : ∀ char ∈ chars, isDigit char = true) :
    Nat.ofDigitChars 10 chars 0 < 10 ^ chars.length := by
  induction chars with
  | nil => decide
  | cons char rest ih =>
      obtain ⟨first, others⟩ := List.forall_mem_cons.mp digits
      have small := toNat_sub_lt_ten first
      have zero : '0'.toNat = 48 := rfl
      have less := ih others
      rw [Nat.ofDigitChars_cons, ofDigitChars_eq_add, zero, Nat.mul_zero, Nat.zero_add,
        List.length_cons, Nat.pow_succ]
      have most : (char.toNat - 48) * 10 ^ rest.length ≤ 9 * 10 ^ rest.length :=
        Nat.mul_le_mul_right _ (by omega)
      omega

/-- A quotient and a rest are told by the sum. -/
theorem eq_of_mul_add_eq {unit first second rest other : Nat} (less : rest < unit)
    (also : other < unit) (same : first * unit + rest = second * unit + other) :
    first = second ∧ rest = other := by
  have positive : 0 < unit := Nat.zero_lt_of_lt less
  have quotient := congrArg (· / unit) same
  have remainder := congrArg (· % unit) same
  simp only [Nat.mul_comm _ unit, Nat.mul_add_div positive, Nat.div_eq_of_lt less,
    Nat.div_eq_of_lt also, Nat.add_zero] at quotient
  simp only [Nat.mul_comm _ unit, Nat.mul_add_mod, Nat.mod_eq_of_lt less,
    Nat.mod_eq_of_lt also] at remainder
  exact ⟨quotient, remainder⟩

theorem eq_of_isDigit {char other : Char} (digit : isDigit char = true)
    (also : isDigit other = true) (same : char.toNat - 48 = other.toNat - 48) : char = other := by
  have least {char : Char} (digit : isDigit char = true) : 48 ≤ char.toNat := by
    unfold isDigit digit? at digit
    split at digit
    · rename_i bounds
      exact bounds.1
    · cases digit
  have first := least digit
  have second := least also
  exact Char.toNat_inj.mp (by omega)

theorem eq_of_length_eq {first second : List Char} (digits : ∀ char ∈ first, isDigit char = true)
    (also : ∀ char ∈ second, isDigit char = true) (length : first.length = second.length)
    (same : Nat.ofDigitChars 10 first 0 = Nat.ofDigitChars 10 second 0) : first = second := by
  induction first generalizing second with
  | nil => exact (List.length_eq_zero_iff.mp length.symm).symm
  | cons char rest ih =>
      cases second with
      | nil => cases length
      | cons other others =>
          obtain ⟨head, tail⟩ := List.forall_mem_cons.mp digits
          obtain ⟨otherHead, otherTail⟩ := List.forall_mem_cons.mp also
          have lengths : rest.length = others.length := Nat.succ.inj length
          have bound := ofDigitChars_lt tail
          have otherBound := ofDigitChars_lt otherTail
          rw [Nat.ofDigitChars_cons, Nat.ofDigitChars_cons, ofDigitChars_eq_add,
            ofDigitChars_eq_add others, lengths] at same
          rw [lengths] at bound
          obtain ⟨front, back⟩ := eq_of_mul_add_eq bound otherBound same
          rw [Nat.mul_zero, Nat.zero_add, Nat.zero_add] at front
          rw [eq_of_isDigit head otherHead front, ih tail otherTail lengths back]

theorem ten_pow_le_ofDigitChars {char : Char} {rest : List Char} (digit : isDigit char = true)
    (nonzero : char ≠ '0') : 10 ^ rest.length ≤ Nat.ofDigitChars 10 (char :: rest) 0 := by
  have zero : '0'.toNat = 48 := rfl
  have positive : 0 < char.toNat - 48 :=
    Nat.pos_of_ne_zero fun none => nonzero (eq_of_isDigit digit (by decide) none)
  rw [Nat.ofDigitChars_cons, ofDigitChars_eq_add, zero, Nat.mul_zero, Nat.zero_add]
  exact Nat.le_add_right_of_le (Nat.le_mul_of_pos_left _ positive)

/-- Digits without zeros in front are as many as the number has. -/
theorem Whole.length_le {digits other : List Char} (whole : Whole digits) (also : Whole other)
    (same : Nat.ofDigitChars 10 digits 0 = Nat.ofDigitChars 10 other 0) :
    digits.length ≤ other.length := by
  have some := List.length_pos_of_ne_nil also.only.1
  have less := ofDigitChars_lt also.only.2
  cases digits with
  | nil => exact absurd rfl whole.only.1
  | cons char rest =>
      by_cases zero : char = '0'
      · rw [whole.least (by rw [zero]; rfl)]
        exact some
      · have least := @ten_pow_le_ofDigitChars char rest (whole.only.2 char List.mem_cons_self) zero
        have order : 10 ^ rest.length < 10 ^ other.length := by omega
        exact (Nat.pow_lt_pow_iff_right (by decide)).mp order

theorem Whole.unique {digits other : List Char} (whole : Whole digits) (also : Whole other)
    (same : Nat.ofDigitChars 10 digits 0 = Nat.ofDigitChars 10 other 0) : digits = other :=
  eq_of_length_eq whole.only.2 also.only.2
    (Nat.le_antisymm (whole.length_le also same) (also.length_le whole same.symm)) same

/-! ## Decimals of one number -/

theorem ofDigitChars_mod_ten {whole fraction : List Char} (after : Digits fraction)
    (last : fraction.getLast? ≠ some '0') : Nat.ofDigitChars 10 (whole ++ fraction) 0 % 10 ≠ 0 := by
  obtain ⟨front, char, rfl⟩ := (List.eq_nil_or_concat' fraction).resolve_left after.1
  have digit := after.2 char (List.mem_append_right front List.mem_cons_self)
  have zero : '0'.toNat = 48 := rfl
  have small := toNat_sub_lt_ten digit
  rw [List.getLast?_concat] at last
  have nonzero : char.toNat - 48 ≠ 0 := fun none =>
    last (congrArg some (eq_of_isDigit digit (by decide) none))
  rw [← List.append_assoc, Nat.ofDigitChars_append, Nat.ofDigitChars_cons,
    Nat.ofDigitChars_nil, zero]
  omega

/-- With a last digit that is no zero there are no more places than needed. -/
theorem places_le {first second places others : Nat} (last : first % 10 ≠ 0)
    (same : (first : ℚ) / 10 ^ places = second / 10 ^ others) : places ≤ others := by
  rw [div_eq_div_iff (by positivity) (by positivity)] at same
  refine Nat.le_of_not_lt fun less => last ?_
  obtain ⟨more, rfl⟩ := Nat.exists_eq_add_of_lt less
  have whole : first * 10 ^ others = second * 10 ^ (others + more + 1) := by exact_mod_cast same
  have split : second * 10 ^ (others + more + 1) = second * 10 ^ more * 10 * 10 ^ others := by ring
  rw [split] at whole
  rw [Nat.eq_of_mul_eq_mul_right (Nat.pow_pos (by decide)) whole, Nat.mul_mod_left]

theorem Plain.unique {first second : List Char} {number : ℚ} (plain : Plain first number)
    (also : Plain second number) : first = second := by
  generalize is : number = other at also
  cases plain with
  | whole whole =>
      cases also with
      | whole otherWhole => exact whole.unique otherWhole (by exact_mod_cast is)
      | pointed before after last =>
          have none := places_le (ofDigitChars_mod_ten after last)
            (is.symm.trans (by rw [pow_zero, div_one]))
          exact absurd (List.length_pos_of_ne_nil after.1) none.not_gt
  | @pointed whole fraction before after last =>
      cases also with
      | whole otherWhole =>
          have none := places_le (ofDigitChars_mod_ten after last)
            (is.trans (by rw [pow_zero, div_one]))
          exact absurd (List.length_pos_of_ne_nil after.1) none.not_gt
      | @pointed otherWhole otherFraction otherBefore otherAfter otherLast =>
          have places : fraction.length = otherFraction.length :=
            le_antisymm (places_le (ofDigitChars_mod_ten after last) is)
              (places_le (ofDigitChars_mod_ten otherAfter otherLast) is.symm)
          rw [places, div_left_inj' (by positivity)] at is
          have same : Nat.ofDigitChars 10 (whole ++ fraction) 0 =
              Nat.ofDigitChars 10 (otherWhole ++ otherFraction) 0 := by exact_mod_cast is
          have bound := ofDigitChars_lt after.2
          rw [Nat.ofDigitChars_append, Nat.ofDigitChars_append, ofDigitChars_eq_add,
            ofDigitChars_eq_add otherFraction, places] at same
          rw [places] at bound
          obtain ⟨front, back⟩ := eq_of_mul_add_eq bound (ofDigitChars_lt otherAfter.2) same
          rw [before.unique otherBefore front, eq_of_length_eq after.2 otherAfter.2 places back]

/-! ## Placing the point -/

theorem digits_toDigits (number : Nat) : Digits (Nat.toDigits 10 number) :=
  ⟨Nat.toDigits_ne_nil, isDigit_of_mem_toDigits number⟩

theorem head?_toDigits {number : Nat} (positive : 0 < number) :
    (Nat.toDigits 10 number).head? ≠ some '0' := by
  induction number using Nat.base_induction 10 (by decide) with
  | single number small =>
      rw [Nat.toDigits_of_lt_base small]
      revert positive
      decide +revert
  | digit front last small frontPositive ih =>
      rw [← Nat.toDigits_append_toDigits (by decide) frontPositive small,
        List.head?_append_of_ne_nil _ Nat.toDigits_ne_nil]
      exact ih frontPositive

theorem getLast?_toDigits {number : Nat} (last : number % 10 ≠ 0) :
    (Nat.toDigits 10 number).getLast? ≠ some '0' := by
  rw [Nat.toDigits_eq_if (by decide)]
  have digit : ∀ rest < 10, rest ≠ 0 → Nat.digitChar rest ≠ '0' := by decide
  split
  · rename_i small
    rw [Nat.mod_eq_of_lt small] at last
    simpa using digit number small last
  · simpa using digit (number % 10) (Nat.mod_lt _ (by decide)) last

theorem ofDigitChars_replicate (count number : Nat) :
    Nat.ofDigitChars 10 (List.replicate count '0') number = number * 10 ^ count := by
  induction count generalizing number with
  | zero => exact (Nat.mul_one number).symm
  | succ count ih =>
      rw [List.replicate_succ, Nat.ofDigitChars_cons, ih, Nat.pow_succ', ← Nat.mul_assoc,
        Nat.mul_comm 10]
      rfl

theorem isDigit_replicate (count : Nat) :
    ∀ char ∈ List.replicate count '0', isDigit char = true := by
  intro char member
  rw [List.eq_of_mem_replicate member]
  rfl

theorem whole_of_head? {digits : List Char} (only : Digits digits)
    (first : digits.head? ≠ some '0') : Whole digits :=
  ⟨only, fun zero => absurd zero first⟩

theorem whole_zero : Whole ['0'] :=
  ⟨⟨List.cons_ne_nil _ _, isDigit_replicate 1⟩, fun _ => rfl⟩

section Point

variable {text : List Char} (digits : Digits text) (first : text.head? ≠ some '0')
  (last : text.getLast? ≠ some '0')

include digits first in
theorem plain_zeros (places : Nat) :
    Plain (text ++ List.replicate places '0')
      (Nat.ofDigitChars 10 text 0 * 10 ^ places : Nat) := by
  rw [← ofDigitChars_replicate, ← Nat.ofDigitChars_append]
  refine .whole (whole_of_head? ⟨List.append_ne_nil_of_left_ne_nil digits.1 _,
    fun char member => ?_⟩ ?_)
  · exact (List.mem_append.mp member).elim (digits.2 char) (isDigit_replicate places char)
  · rw [List.head?_append_of_ne_nil _ digits.1]
    exact first

include digits first last in
theorem plain_point_inside {places : Nat} (some : 0 < places) (inside : places < text.length) :
    Plain (text.take (text.length - places) ++ '.' :: text.drop (text.length - places))
      (Nat.ofDigitChars 10 text 0 / 10 ^ places) := by
  have whole : text.take (text.length - places) ≠ [] := by
    rw [Ne, List.take_eq_nil_iff]
    exact not_or.mpr ⟨by omega, digits.1⟩
  have length : (text.drop (text.length - places)).length = places := by
    rw [List.length_drop]
    omega
  have fraction : text.drop (text.length - places) ≠ [] := by
    rw [← List.length_pos_iff, length]
    exact some
  have joined := List.take_append_drop (text.length - places) text
  have before : Whole (text.take (text.length - places)) := by
    refine whole_of_head? ⟨whole, fun char member => digits.2 char (List.mem_of_mem_take member)⟩ ?_
    rw [← List.head?_append_of_ne_nil _ whole, joined]
    exact first
  have after : Digits (text.drop (text.length - places)) :=
    ⟨fraction, fun char member => digits.2 char (List.mem_of_mem_drop member)⟩
  have plain := Plain.pointed before after (by
    rw [← List.getLast?_append_of_ne_nil _ fraction, joined]
    exact last)
  rw [joined, length] at plain
  exact plain

include digits last in
theorem plain_point_before {places : Nat} (before : text.length ≤ places) :
    Plain ('0' :: '.' :: (List.replicate (places - text.length) '0' ++ text))
      (Nat.ofDigitChars 10 text 0 / 10 ^ places) := by
  have length : (List.replicate (places - text.length) '0' ++ text).length = places := by
    rw [List.length_append, List.length_replicate]
    omega
  have after : Digits (List.replicate (places - text.length) '0' ++ text) :=
    ⟨List.append_ne_nil_of_right_ne_nil _ digits.1, fun char member =>
      (List.mem_append.mp member).elim (isDigit_replicate _ char) (digits.2 char)⟩
  have plain := Plain.pointed whole_zero after (by
    rw [List.getLast?_append_of_ne_nil _ digits.1]
    exact last)
  rw [length, Nat.ofDigitChars_append, Nat.ofDigitChars_append, ofDigitChars_replicate,
    show Nat.ofDigitChars 10 ['0'] 0 = 0 from rfl, Nat.zero_mul] at plain
  exact plain

end Point

end Gatehouse.Decimal

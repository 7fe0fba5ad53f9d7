import Mathlib.Algebra.Group.Nat.Defs
import Gatehouse.Proofs.Json.Numbers
import Gatehouse.Text.Decimal

/-!
# Written numbers are read back

The digits of a number spell the number, with any number of zeros in front.  Of a
power of ten the digits count up to where it has come to `2 ^ 16` (`Clipped`).
-/

set_option autoImplicit false

namespace Gatehouse.Decimal

def isDigit (char : Char) : Bool :=
  (digit? char).isSome

theorem digit?_of_isDigit (char : Char) (digit : isDigit char = true) :
    digit? char = some (char.toNat - 48) := by
  unfold isDigit digit? at digit
  unfold digit?
  split at digit
  · rename_i bounds
    rw [if_pos bounds]
  · cases digit

theorem toNat_sub_lt_ten {char : Char} (digit : isDigit char = true) : char.toNat - 48 < 10 := by
  unfold isDigit digit? at digit
  split at digit
  · rename_i bounds
    have most : char.toNat ≤ 57 := bounds.2
    omega
  · cases digit

theorem isDigit_of_mem_toDigits (value : Nat) (char : Char)
    (member : char ∈ Nat.toDigits 10 value) : isDigit char = true := by
  have bounds := Json.digit_bounds char value member
  unfold isDigit digit?
  rw [if_pos]
  · rfl
  · exact bounds

theorem extend?_eq (chars : List Char) (digits : ∀ char ∈ chars, isDigit char = true)
    (sofar : Nat) : extend? sofar chars = some (Nat.ofDigitChars 10 chars sofar) := by
  induction chars generalizing sofar with
  | nil => rfl
  | cons char rest ih =>
      have first := digit?_of_isDigit char (digits char List.mem_cons_self)
      have zero : '0'.toNat = 48 := rfl
      rw [extend?, first, Nat.ofDigitChars_cons, zero, Nat.mul_comm 10]
      exact ih (fun other member => digits other (List.mem_cons_of_mem _ member)) _

theorem natural?_eq (chars : List Char) (digits : ∀ char ∈ chars, isDigit char = true)
    (nonempty : chars ≠ []) : natural? chars = some (Nat.ofDigitChars 10 chars 0) := by
  cases chars with
  | nil => exact absurd rfl nonempty
  | cons char rest => exact extend?_eq _ digits 0

theorem value?_of_isDigit (chars : List Char) (digits : ∀ char ∈ chars, isDigit char = true) :
    value? chars = (natural? chars).map fun value => (value : Int) := by
  unfold value?
  split
  · exact absurd (digits '+' List.mem_cons_self) (by decide)
  · exact absurd (digits '-' List.mem_cons_self) (by decide)
  · rfl

/-! ## Numerals -/

/-- One or more digits. -/
def Digits (chars : List Char) : Prop :=
  chars ≠ [] ∧ ∀ char ∈ chars, isDigit char = true

/-- Digits with or without a sign, and the number they spell. -/
inductive Numeral : List Char → Int → Prop
  | plain {digits : List Char} (only : Digits digits) :
      Numeral digits (Nat.ofDigitChars 10 digits 0)
  | plus {digits : List Char} (only : Digits digits) :
      Numeral ('+' :: digits) (Nat.ofDigitChars 10 digits 0)
  | minus {digits : List Char} (only : Digits digits) :
      Numeral ('-' :: digits) (-(Nat.ofDigitChars 10 digits 0 : Int))

theorem isDigit_of_extend? {chars : List Char} {sofar value : Nat}
    (read : extend? sofar chars = some value) : ∀ char ∈ chars, isDigit char = true := by
  induction chars generalizing sofar with
  | nil => exact fun _ member => absurd member List.not_mem_nil
  | cons char rest ih =>
      rw [extend?] at read
      cases digit : digit? char with
      | none =>
          rw [digit] at read
          cases read
      | some number =>
          rw [digit] at read
          refine List.forall_mem_cons.mpr ⟨?_, ih read⟩
          rw [isDigit, digit]
          rfl

theorem natural?_eq_some_iff (chars : List Char) (value : Nat) :
    natural? chars = some value ↔ Digits chars ∧ Nat.ofDigitChars 10 chars 0 = value := by
  constructor
  · intro read
    have only : Digits chars := by
      cases chars with
      | nil => cases read
      | cons char rest => exact ⟨List.cons_ne_nil char rest, isDigit_of_extend? read⟩
    rw [natural?_eq chars only.2 only.1] at read
    exact ⟨only, Option.some.inj read⟩
  · rintro ⟨only, rfl⟩
    exact natural?_eq chars only.2 only.1

theorem value?_eq_some_iff (chars : List Char) (value : Int) :
    value? chars = some value ↔ Numeral chars value := by
  constructor
  · intro read
    unfold value? at read
    split at read
    all_goals
      simp only [Option.map_eq_some_iff, Option.bind_eq_bind, Option.bind_eq_some_iff,
        Option.pure_def, Option.some.injEq] at read
      obtain ⟨_, ⟨magnitude, digits, rfl⟩, rfl⟩ := read
      obtain ⟨only, rfl⟩ := (natural?_eq_some_iff _ _).mp digits
    · exact .plus only
    · exact .minus only
    · exact .plain only
  · intro numeral
    cases numeral with
    | plain only =>
        rw [value?_of_isDigit chars only.2, natural?_eq chars only.2 only.1]
        rfl
    | plus only =>
        rw [value?, natural?_eq _ only.2 only.1]
        rfl
    | minus only =>
        rw [value?, natural?_eq _ only.2 only.1]
        rfl

theorem int64?_eq_some_iff (chars : List Char) (value : Int) :
    int64? chars = some value ↔ Numeral chars value ∧ minInt64 ≤ value ∧ value ≤ maxInt64 := by
  rw [int64?, Option.filter_eq_some_iff, value?_eq_some_iff, Bool.and_eq_true, decide_eq_true_eq,
    decide_eq_true_eq]

/-! ## Powers of ten -/

/-- What a power of ten is read as: its digits up to where it has come to `2 ^ 16`. -/
def Clipped (written read : Nat) : Prop :=
  read < 655360 ∧ ∃ passed, read = written / 10 ^ passed ∧ (passed = 0 ∨ 65536 ≤ read)

/-- A power of ten with or without a sign, and what it is read as. -/
inductive Exponent : List Char → Int → Prop
  | plain {digits : List Char} {read : Nat} (only : Digits digits)
      (clipped : Clipped (Nat.ofDigitChars 10 digits 0) read) : Exponent digits read
  | plus {digits : List Char} {read : Nat} (only : Digits digits)
      (clipped : Clipped (Nat.ofDigitChars 10 digits 0) read) : Exponent ('+' :: digits) read
  | minus {digits : List Char} {read : Nat} (only : Digits digits)
      (clipped : Clipped (Nat.ofDigitChars 10 digits 0) read) :
      Exponent ('-' :: digits) (-(read : Int))

theorem Clipped.unique {written read other : Nat} (clipped : Clipped written read)
    (also : Clipped written other) : read = other := by
  -- to pass over another digit is to fall below the bound
  have lesser {first second more passed : Nat} (bound : first < 655360)
      (is : first = written / 10 ^ passed) (also : second = written / 10 ^ (passed + more))
      (great : passed + more = 0 ∨ 65536 ≤ second) : first = second := by
    rw [Nat.pow_add, ← Nat.div_div_eq_div_mul, ← is] at also
    cases more with
    | zero => rw [also, Nat.pow_zero, Nat.div_one]
    | succ more =>
        have most : first / 10 ^ (more + 1) ≤ first / 10 :=
          Nat.div_le_div_left (Nat.le_self_pow more.succ_ne_zero 10) (by decide)
        omega
  obtain ⟨bound, passed, is, great⟩ := clipped
  obtain ⟨otherBound, otherPassed, otherIs, otherGreat⟩ := also
  rcases Nat.le_total passed otherPassed with le | le
  · obtain ⟨more, rfl⟩ := Nat.exists_eq_add_of_le le
    exact lesser bound is otherIs otherGreat
  · obtain ⟨more, rfl⟩ := Nat.exists_eq_add_of_le le
    exact (lesser otherBound otherIs is great).symm

theorem Clipped.extend {written read : Nat} (clipped : Clipped written read) {digit : Nat}
    (small : digit < 10) :
    Clipped (written * 10 + digit) (if read < 65536 then read * 10 + digit else read) := by
  obtain ⟨bound, passed, is, great⟩ := clipped
  split
  · rename_i less
    have none : passed = 0 := great.resolve_right (Nat.not_le_of_lt less)
    rw [none, Nat.pow_zero, Nat.div_one] at is
    exact ⟨by omega, 0, by rw [is, Nat.pow_zero, Nat.div_one], .inl rfl⟩
  · rename_i more
    refine ⟨bound, passed + 1, ?_, .inr (Nat.le_of_not_lt more)⟩
    have shorter : (written * 10 + digit) / 10 = written := by omega
    rw [Nat.pow_succ', ← Nat.div_div_eq_div_mul, shorter, is]

theorem extendPower?_eq_some_iff (chars : List Char) {written sofar : Nat}
    (clipped : Clipped written sofar) (read : Nat) :
    extendPower? sofar chars = some read ↔
      (∀ char ∈ chars, isDigit char = true) ∧ Clipped (Nat.ofDigitChars 10 chars written) read := by
  induction chars generalizing written sofar with
  | nil =>
      rw [extendPower?, Option.some_inj]
      constructor
      · rintro rfl
        exact ⟨fun _ member => absurd member List.not_mem_nil, clipped⟩
      · exact fun also => clipped.unique also.2
  | cons char rest ih =>
      rw [extendPower?, List.forall_mem_cons]
      cases digit : isDigit char with
      | false =>
          have none : digit? char = none := Option.not_isSome_iff_eq_none.mp (by
            rw [isDigit] at digit
            simp [digit])
          rw [none]
          exact iff_of_false (Option.some_ne_none read).symm fun both => Bool.noConfusion both.1.1
      | true =>
          have value := digit?_of_isDigit char digit
          have zero : '0'.toNat = 48 := rfl
          rw [value, Nat.ofDigitChars_cons, zero, Nat.mul_comm 10]
          simp only [ih (clipped.extend (toNat_sub_lt_ten digit)), true_and]

theorem naturalPower?_eq_some_iff (chars : List Char) (read : Nat) :
    naturalPower? chars = some read ↔
      Digits chars ∧ Clipped (Nat.ofDigitChars 10 chars 0) read := by
  have start : Clipped 0 0 := ⟨by decide, 0, rfl, .inl rfl⟩
  cases chars with
  | nil => exact iff_of_false (Option.some_ne_none read).symm fun both => both.1.1 rfl
  | cons char rest =>
      rw [naturalPower?, extendPower?_eq_some_iff _ start]
      · exact and_congr_left' ⟨fun digits => ⟨List.cons_ne_nil char rest, digits⟩, And.right⟩
      · exact List.cons_ne_nil char rest

theorem power?_eq_some_iff (chars : List Char) (power : Int) :
    power? chars = some power ↔ Exponent chars power := by
  constructor
  · intro read
    unfold power? at read
    split at read
    all_goals
      obtain ⟨magnitude, digits, rfl⟩ := Option.map_eq_some_iff.mp read
      obtain ⟨only, clipped⟩ := (naturalPower?_eq_some_iff _ _).mp digits
    · exact .plus only clipped
    · exact .minus only clipped
    · exact .plain only clipped
  · intro exponent
    cases exponent with
    | plus only clipped =>
        rw [power?, (naturalPower?_eq_some_iff _ _).mpr ⟨only, clipped⟩]
        rfl
    | minus only clipped =>
        rw [power?, (naturalPower?_eq_some_iff _ _).mpr ⟨only, clipped⟩]
        rfl
    | plain only clipped =>
        unfold power?
        split
        · exact absurd (only.2 '+' List.mem_cons_self) (by decide)
        · exact absurd (only.2 '-' List.mem_cons_self) (by decide)
        · rw [(naturalPower?_eq_some_iff _ _).mpr ⟨only, clipped⟩]
          rfl

/-! ## Zeros in front -/

theorem toList_padded (width value : Nat) :
    (padded width value).toList =
      List.replicate (width - (Nat.toDigits 10 value).length) '0' ++ Nat.toDigits 10 value := by
  unfold padded
  rw [← Nat.toList_repr, String.length_toList, String.toList_append, String.toList_ofList]

theorem isDigit_of_mem_padded (width value : Nat) (char : Char)
    (member : char ∈ (padded width value).toList) : isDigit char = true := by
  rw [toList_padded, List.mem_append] at member
  rcases member with zeros | digits
  · rw [List.eq_of_mem_replicate zeros]
    rfl
  · exact isDigit_of_mem_toDigits value char digits

theorem ofDigitChars_zeros (count : Nat) :
    Nat.ofDigitChars 10 (List.replicate count '0') 0 = 0 := by
  induction count with
  | zero => rfl
  | succ count ih =>
      rw [List.replicate_succ, Nat.ofDigitChars_cons]
      exact ih

theorem natural?_padded (width value : Nat) :
    natural? (padded width value).toList = some value := by
  have nonempty : (padded width value).toList ≠ [] := by
    rw [toList_padded]
    exact List.append_ne_nil_of_right_ne_nil _ Nat.toDigits_ne_nil
  rw [natural?_eq _ (isDigit_of_mem_padded width value) nonempty, toList_padded,
    Nat.ofDigitChars_append, ofDigitChars_zeros, Nat.ofDigitChars_ten_toDigits]

theorem length_padded (width value : Nat) (positive : 0 < width) (fits : value < 10 ^ width) :
    (padded width value).toList.length = width := by
  have short := (Nat.length_toDigits_le_iff (by decide) positive).mpr fits
  rw [toList_padded, List.length_append, List.length_replicate]
  omega

/-! ## Integers -/

theorem natural?_toDigits (value : Nat) : natural? (Nat.toDigits 10 value) = some value := by
  rw [natural?_eq _ (isDigit_of_mem_toDigits value) Nat.toDigits_ne_nil,
    Nat.ofDigitChars_ten_toDigits]

theorem value?_intChars (value : Int) : value? (Json.intChars value) = some value := by
  cases value with
  | ofNat magnitude =>
      have written : Json.intChars (.ofNat magnitude) = Nat.toDigits 10 magnitude :=
        Nat.toList_repr
      rw [written, value?_of_isDigit _ (isDigit_of_mem_toDigits magnitude), natural?_toDigits]
      rfl
  | negSucc magnitude =>
      simp only [Json.intChars, value?]
      rw [Nat.toList_repr, natural?_toDigits]
      rfl

end Gatehouse.Decimal

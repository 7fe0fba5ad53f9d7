import Mathlib

/-!
# Whole numbers in doubles

A double has 53 bits for its significand, so it holds every whole number below
`2 ^ 53` exactly.  For these, taking one away gives the number before
(`ofNat_sub_one`), the order is that of the numbers (`ofNat_lt`), and adding
nothing adds nothing (`ofNat_add_zero_mul`).  The three follow from what the
operations do with unpacked doubles (`whole`).
-/

set_option autoImplicit false

namespace Gatehouse.Doubles

open Float.Model UnpackedFloat

/-! ## Rounding -/

/-- The 53 leading bits of a whole number, the first of them set. -/
def significand (number : Nat) : Nat :=
  number * 2 ^ (52 - number.log2)

theorem log2_le (number : Nat) (small : number < 2 ^ 53) : number.log2 ≤ 52 := by
  by_cases zero : number = 0
  · simp [zero]
  · have bits := (Nat.log2_lt zero).mpr small
    omega

theorem significand_bounds (number : Nat) (positive : 0 < number) (small : number < 2 ^ 53) :
    2 ^ 52 ≤ significand number ∧ significand number < 2 ^ 53 := by
  have bits := log2_le number small
  have least := Nat.mul_le_mul_right (2 ^ (52 - number.log2)) (Nat.log2_self_le positive.ne')
  have most := Nat.mul_lt_mul_of_pos_right (Nat.lt_log2_self (n := number))
    (Nat.two_pow_pos (52 - number.log2))
  rw [← Nat.pow_add] at least most
  have low : number.log2 + (52 - number.log2) = 52 := by omega
  have high : number.log2 + 1 + (52 - number.log2) = 53 := by omega
  rw [low] at least
  rw [high] at most
  exact ⟨least, most⟩

theorem log2_scaled (number shift : Nat) (positive : 0 < number) :
    (number * 2 ^ shift).log2 = number.log2 + shift := by
  have scaled : number * 2 ^ shift ≠ 0 := (Nat.mul_pos positive (Nat.two_pow_pos shift)).ne'
  rw [Nat.log2_eq_iff scaled]
  have least := Nat.mul_le_mul_right (2 ^ shift) (Nat.log2_self_le positive.ne')
  have most := Nat.mul_lt_mul_of_pos_right (Nat.lt_log2_self (n := number)) (Nat.two_pow_pos shift)
  rw [← Nat.pow_add] at least most
  refine ⟨least, ?_⟩
  rwa [Nat.add_right_comm]

/-- A whole number as a double keeps it. -/
def whole (number : Nat) : Float.Model.UnpackedFloat :=
  if positive : 0 < number then
    .finite .positive (significand number) ((number.log2 : Int) - 52)
      (Nat.mul_pos positive (Nat.two_pow_pos _))
  else .zero .positive

theorem shift_exact (mantissa shift : Nat) :
    ExtendedMantissa.ofMantissaAndAccuracy (mantissa * 2 ^ shift) .exact >>> shift =
      ExtendedMantissa.ofMantissaAndAccuracy mantissa .exact := by
  induction shift generalizing mantissa with
  | zero => rw [Nat.pow_zero, Nat.mul_one]; rfl
  | succ shift ih =>
      have doubled : mantissa * 2 ^ (shift + 1) = mantissa * 2 * 2 ^ shift := by
        rw [Nat.pow_succ', Nat.mul_assoc]
      have once : ExtendedMantissa.shiftRightOne
          (ExtendedMantissa.ofMantissaAndAccuracy (mantissa * 2) .exact) =
            ExtendedMantissa.ofMantissaAndAccuracy mantissa .exact := by
        simp [ExtendedMantissa.shiftRightOne, ExtendedMantissa.ofMantissaAndAccuracy]
      rw [doubled, ← once, ← ih (mantissa * 2)]
      rfl

theorem target_scaled (number shift : Nat) (positive : 0 < number) :
    Format.binary64.targetExponent (totalExponent (number * 2 ^ shift) (-shift)) =
      (number.log2 : Int) - 52 := by
  simp only [Format.targetExponent, totalExponent, log2_scaled number shift positive,
    Format.mantissaBits, Format.minExponent]
  omega

theorem target_significand (number : Nat) (positive : 0 < number) (small : number < 2 ^ 53) :
    Format.binary64.targetExponent
      (totalExponent (significand number) ((number.log2 : Int) - 52)) =
        (number.log2 : Int) - 52 := by
  have bits := log2_le number small
  have scaled := target_scaled number (52 - number.log2) positive
  have same : (-(52 - number.log2 : Nat) : Int) = (number.log2 : Int) - 52 := by omega
  rw [same] at scaled
  exact scaled

/-- A whole number with enough zeros behind it is rounded to itself. -/
theorem roundWithAccuracy_whole (number shift : Nat) (positive : 0 < number)
    (small : number < 2 ^ 53) (enough : 52 - number.log2 ≤ shift) :
    roundWithAccuracy Format.binary64 .positive (number * 2 ^ shift) (-shift) .exact =
      whole number := by
  have bits := log2_le number small
  obtain ⟨more, rfl⟩ := Nat.exists_eq_add_of_le enough
  have split : number * 2 ^ (52 - number.log2 + more) = significand number * 2 ^ more := by
    rw [significand, Nat.pow_add, Nat.mul_assoc]
  have amount : ((number.log2 : Int) - 52 - -((52 - number.log2 + more : Nat) : Int)).toNat =
      more := by
    omega
  have first : shiftToTargetExponent Format.binary64 (number * 2 ^ (52 - number.log2 + more))
      (-((52 - number.log2 + more : Nat) : Int)) .exact =
        (ExtendedMantissa.ofMantissaAndAccuracy (significand number) .exact,
          (number.log2 : Int) - 52) := by
    simp only [shiftToTargetExponent, target_scaled number _ positive, shiftToExponent, amount]
    rw [split, shift_exact]
    congr 1
    omega
  have again : shiftToTargetExponent Format.binary64 (significand number)
      ((number.log2 : Int) - 52) .exact =
        (ExtendedMantissa.ofMantissaAndAccuracy (significand number) .exact,
          (number.log2 : Int) - 52) := by
    simp only [shiftToTargetExponent, target_significand number positive small, shiftToExponent,
      Int.sub_self]
    congr 1
    omega
  have nonzero := (significand_bounds number positive small).1
  have rounded : (ExtendedMantissa.ofMantissaAndAccuracy (significand number)
      .exact).roundedMantissa = significand number := rfl
  rw [roundWithAccuracy, first]
  simp only [rounded, again]
  rw [whole, dif_pos positive]
  exact dif_neg (by show significand number ≠ 0; omega)

theorem round_whole (number shift : Nat) (positive : 0 < number) (small : number < 2 ^ 53) :
    UnpackedFloat.round Format.binary64 .positive (number * 2 ^ shift) (-shift) =
      whole number := by
  have bits := log2_le number small
  have widened : decreaseExponent (number * 2 ^ shift) (-shift) ((number.log2 : Int) - 52) =
      (number * 2 ^ max shift (52 - number.log2),
        -((max shift (52 - number.log2) : Nat) : Int)) := by
    have amount : (-(shift : Int) - ((number.log2 : Int) - 52)).toNat =
        max shift (52 - number.log2) - shift := by
      omega
    have bigger : shift + (max shift (52 - number.log2) - shift) = max shift (52 - number.log2) := by
      omega
    simp only [decreaseExponent, amount, Nat.shiftLeft_eq]
    rw [Nat.mul_assoc, ← Nat.pow_add, bigger]
    congr 1
    omega
  rw [UnpackedFloat.round, target_scaled number shift positive]
  simp only [widened]
  exact roundWithAccuracy_whole number _ positive small (le_max_right _ _)

theorem normalize_whole (number shift : Nat) (small : number < 2 ^ 53) :
    UnpackedFloat.normalize Format.binary64 ((number * 2 ^ shift : Nat) : Int) (-shift)
      .positive = whole number := by
  by_cases positive : 0 < number
  · have scaled : 0 < number * 2 ^ shift := Nat.mul_pos positive (Nat.two_pow_pos shift)
    have order : compare ((number * 2 ^ shift : Nat) : Int) 0 = .gt :=
      Int.compare_eq_gt.mpr (by exact_mod_cast scaled)
    simp only [UnpackedFloat.normalize, order, Int.toNat_natCast]
    exact round_whole number shift positive small
  · have zero : number = 0 := by omega
    subst zero
    rw [Nat.zero_mul]
    rfl

/-! ## Packing -/

theorem unpack_pack_finite (mantissa : Nat) (exponent : Int) (positive : 0 < mantissa)
    (least : 2 ^ 52 ≤ mantissa) (most : mantissa < 2 ^ 53) (low : -1074 ≤ exponent)
    (high : exponent ≤ 971) :
    UnpackedFloat.unpack Format.binary64
        (UnpackedFloat.pack Format.binary64 (.finite .positive mantissa exponent positive)) =
      .finite .positive mantissa exponent positive := by
  have length : mantissa.log2 = 52 := by
    rw [Nat.log2_eq_iff (by omega)]
    exact ⟨least, most⟩
  have biased : (exponent + Format.binary64.exponentBias +
      Format.binary64.mantissaBitsWithoutImplicit).toNat = (exponent + 1075).toNat := by
    show (exponent + 1023 + 52).toNat = (exponent + 1075).toNat
    omega
  have fits : ¬ 2 ^ Format.binary64.exponentBits ≤ (exponent + 1075).toNat + 1 := by
    show ¬ 2048 ≤ (exponent + 1075).toNat + 1
    omega
  have stored : (BitVec.ofNat 11 (exponent + 1075).toNat).toNat = (exponent + 1075).toNat := by
    rw [BitVec.toNat_ofNat]
    omega
  have finite : BitVec.ofNat 11 (exponent + 1075).toNat ≠ -1#11 := by
    intro same
    have values := congrArg BitVec.toNat same
    rw [stored] at values
    change (exponent + 1075).toNat = 2047 at values
    omega
  have normal : BitVec.ofNat 11 (exponent + 1075).toNat ≠ 0#11 := by
    intro same
    have values := congrArg BitVec.toNat same
    rw [stored] at values
    change (exponent + 1075).toNat = 0 at values
    omega
  have bits : (1#1 ++ BitVec.ofNat 52 mantissa).toNat = mantissa := by
    rw [BitVec.toNat_append, BitVec.toNat_ofNat, Nat.shiftLeft_eq]
    show 2 ^ 52 ||| mantissa % 2 ^ 52 = mantissa
    rw [Nat.or_comm, Nat.or_two_pow_eq_add_of_lt (Nat.mod_lt _ (Nat.two_pow_pos 52))]
    omega
  have packed : UnpackedFloat.pack Format.binary64 (.finite .positive mantissa exponent positive) =
      packComponents Format.binary64 .positive (BitVec.ofNat 11 (exponent + 1075).toNat)
        (BitVec.ofNat 52 mantissa) := by
    simp only [UnpackedFloat.pack, biased, if_neg fits, length]
    exact if_pos rfl
  rw [packed]
  simp only [UnpackedFloat.unpack, unpackMantissa_packComponents, unpackExponent_packComponents,
    unpackSign_packComponents, Sign.ofBitVec_toBitVec]
  rw [if_neg finite, if_neg normal]
  simp only [bits, stored]
  congr 1
  show ((exponent + 1075).toNat : Int) - (1023 + 52) = exponent
  omega

theorem unpack_pack_whole (number : Nat) (small : number < 2 ^ 53) :
    (Float.Model.pack (whole number)).unpack = whole number := by
  by_cases positive : 0 < number
  · have bits := log2_le number small
    obtain ⟨least, most⟩ := significand_bounds number positive small
    rw [whole, dif_pos positive]
    exact unpack_pack_finite _ _ _ least most (by omega) (by omega)
  · have zero : number = 0 := by omega
    subst zero
    rfl

/-! ## Operations -/

theorem whole_positive (number : Nat) (positive : 0 < number) :
    whole number = .finite .positive (significand number) ((number.log2 : Int) - 52)
      (Nat.mul_pos positive (Nat.two_pow_pos _)) := dif_pos positive

theorem whole_mul_one (number : Nat) (small : number < 2 ^ 53) :
    UnpackedFloat.mul Format.binary64 (whole number) (whole 1) = whole number := by
  by_cases positive : 0 < number
  · have bits := log2_le number small
    have product : significand number * significand 1 =
        number * 2 ^ (52 - number.log2 + 52) := by
      rw [Nat.pow_add, ← Nat.mul_assoc]
      rfl
    have exponents : ((number.log2 : Int) - 52) + ((1 : Nat).log2 - 52) =
        -((52 - number.log2 + 52 : Nat) : Int) := by
      have one : (1 : Nat).log2 = 0 := rfl
      rw [one]
      omega
    have rounded := roundWithAccuracy_whole number (52 - number.log2 + 52) positive small (by omega)
    rw [← product, ← exponents] at rounded
    refine Eq.trans ?_ rounded
    rw [whole_positive number positive, whole_positive 1 (by decide)]
    rfl
  · have zero : number = 0 := by omega
    subst zero
    rfl

theorem decreaseExponent_significand (number : Nat) (small : number < 2 ^ 53) :
    decreaseExponent (significand number) ((number.log2 : Int) - 52) (-52) =
      (number * 2 ^ 52, -52) := by
  have bits := log2_le number small
  have amount : ((number.log2 : Int) - 52 - -52).toNat = number.log2 := by omega
  have width : 52 - number.log2 + number.log2 = 52 := by omega
  simp only [decreaseExponent, amount, significand, Nat.shiftLeft_eq]
  rw [Nat.mul_assoc, ← Nat.pow_add, width]
  congr 1
  omega

theorem whole_sub_one (number : Nat) (small : number + 1 < 2 ^ 53) :
    UnpackedFloat.sub Format.binary64 (whole (number + 1)) (whole 1) = whole number := by
  have exponents : min (((number + 1).log2 : Int) - 52) (((1 : Nat).log2 : Int) - 52) = -52 := by
    have one : (1 : Nat).log2 = 0 := rfl
    rw [one]
    omega
  have difference : (((number + 1) * 2 ^ 52 : Nat) : Int) - ((1 * 2 ^ 52 : Nat) : Int) =
      ((number * 2 ^ 52 : Nat) : Int) := by
    omega
  have normal := normalize_whole number 52 (by omega)
  rw [whole_positive (number + 1) (by omega), whole_positive 1 (by decide)]
  simp only [UnpackedFloat.sub, exponents, decreaseExponent_significand _ small,
    decreaseExponent_significand 1 (by decide), Sign.apply, difference]
  exact normal

theorem zero_mul_whole (number : Nat) :
    UnpackedFloat.mul Format.binary64 (whole 0) (whole number) = whole 0 := by
  by_cases positive : 0 < number
  · rw [whole_positive number positive]
    rfl
  · have zero : number = 0 := by omega
    subst zero
    rfl

theorem whole_add_zero (number : Nat) :
    UnpackedFloat.add Format.binary64 (whole number) (whole 0) = whole number := by
  by_cases positive : 0 < number
  · rw [whole_positive number positive]
    rfl
  · have zero : number = 0 := by omega
    subst zero
    rfl

theorem lt_of_log2_lt (one other : Nat) (shorter : one.log2 < other.log2) :
    one < other := by
  have most := Nat.lt_log2_self (n := one)
  have least := Nat.log2_self_le (n := other) (by rintro rfl; simp at shorter)
  have power : 2 ^ (one.log2 + 1) ≤ 2 ^ other.log2 := Nat.pow_le_pow_right (by decide) shorter
  omega

theorem compare_significands (one other : Nat) :
    ((compare ((one.log2 : Int) - 52) ((other.log2 : Int) - 52)).then
      (compare (significand one) (significand other)) = .lt) ↔ one < other := by
  rcases Nat.lt_trichotomy one.log2 other.log2 with shorter | same | longer
  · have less := lt_of_log2_lt one other shorter
    have order : compare ((one.log2 : Int) - 52) ((other.log2 : Int) - 52) = .lt :=
      Int.compare_eq_lt.mpr (by omega)
    simp [order, less]
  · have order : compare ((one.log2 : Int) - 52) ((other.log2 : Int) - 52) = .eq := by
      rw [same]
      exact Int.compare_eq_eq.mpr rfl
    have scaled : significand one < significand other ↔ one < other := by
      rw [significand, significand, same]
      exact Nat.mul_lt_mul_right (Nat.two_pow_pos _)
    simp only [order, Ordering.then, Nat.compare_eq_lt, scaled]
  · have less := lt_of_log2_lt other one longer
    have order : compare ((one.log2 : Int) - 52) ((other.log2 : Int) - 52) = .gt :=
      Int.compare_eq_gt.mpr (by omega)
    simp [order, less.le]

theorem lt_whole (one other : Nat) :
    UnpackedFloat.lt (whole one) (whole other) = decide (one < other) := by
  by_cases positive : 0 < one
  · by_cases also : 0 < other
    · rw [whole_positive one positive, whole_positive other also, Bool.eq_iff_iff,
        decide_eq_true_eq, ← compare_significands one other]
      simp [UnpackedFloat.lt, UnpackedFloat.compare]
    · have zero : other = 0 := by omega
      subst zero
      rw [whole_positive one positive]
      simp [UnpackedFloat.lt, UnpackedFloat.compare, whole]
  · have zero : one = 0 := by omega
    subst zero
    by_cases also : 0 < other
    · rw [whole_positive other also]
      simp [UnpackedFloat.lt, UnpackedFloat.compare, whole, also]
    · have zero : other = 0 := by omega
      subst zero
      rfl

/-! ## Doubles of whole numbers -/

theorem toModel_ofNat (number : Nat) (small : number < 2 ^ 53) :
    (Float.ofNat number).toModel = Float.Model.pack (whole number) := by
  have word : number.toUInt64.toNat = number := by
    rw [Nat.toUInt64_eq]
    exact UInt64.toNat_ofNat_of_lt' (by show number < 2 ^ 64; omega)
  have converted : number.toUInt64.toFloat.toModel = Float.Model.pack (whole number) := by
    have normal := normalize_whole number 0 small
    rw [Nat.pow_zero, Nat.mul_one] at normal
    show Float.Model.pack (UnpackedFloat.normalize Format.binary64
      (number.toUInt64.toNat : Int) 0 .positive) = _
    rw [word]
    exact congrArg Float.Model.pack normal
  have scaled : Float.ofNat number = number.toUInt64.toFloat * Float.ofBits 0x3FF0000000000000 := by
    show Float.ofScientific number false 0 = _
    rw [Float.ofScientific, dif_pos ⟨small, by decide⟩]
    rfl
  have one : (Float.ofBits 0x3FF0000000000000).toModel.unpack = whole 1 := by
    rfl
  rw [scaled]
  show Float.Model.pack (UnpackedFloat.mul Format.binary64 number.toUInt64.toFloat.toModel.unpack
    (Float.ofBits 0x3FF0000000000000).toModel.unpack) = _
  rw [converted, unpack_pack_whole number small, one, whole_mul_one number small]

theorem unpack_ofNat (number : Nat) (small : number < 2 ^ 53) :
    (Float.ofNat number).toModel.unpack = whole number := by
  rw [toModel_ofNat number small, unpack_pack_whole number small]

theorem ofNat_sub_one (number : Nat) (small : number + 1 < 2 ^ 53) :
    Float.ofNat (number + 1) - Float.ofNat 1 = Float.ofNat number := by
  show Float.ofModel (Float.Model.pack (UnpackedFloat.sub Format.binary64
    (Float.ofNat (number + 1)).toModel.unpack (Float.ofNat 1).toModel.unpack)) = _
  rw [unpack_ofNat _ small, unpack_ofNat 1 (by decide), whole_sub_one number small,
    ← toModel_ofNat number (by omega)]

theorem ofNat_lt (one other : Nat) (small : one < 2 ^ 53) (also : other < 2 ^ 53) :
    decide (Float.ofNat one < Float.ofNat other) = decide (one < other) := by
  have order := lt_whole one other
  rw [← unpack_ofNat one small, ← unpack_ofNat other also] at order
  rw [← order, Bool.eq_iff_iff, decide_eq_true_eq]
  show decide (UnpackedFloat.lt _ _ = true) = true ↔ _
  rw [decide_eq_true_eq]

theorem ofNat_add_zero_mul (number factor : Nat) (small : number < 2 ^ 53)
    (also : factor < 2 ^ 53) :
    Float.ofNat number + Float.ofNat 0 * Float.ofNat factor = Float.ofNat number := by
  have product : (Float.ofNat 0 * Float.ofNat factor).toModel.unpack = whole 0 := by
    show (Float.Model.pack (UnpackedFloat.mul Format.binary64
      (Float.ofNat 0).toModel.unpack (Float.ofNat factor).toModel.unpack)).unpack = whole 0
    rw [unpack_ofNat 0 (by decide), unpack_ofNat factor also, zero_mul_whole,
      unpack_pack_whole 0 (by decide)]
  show Float.ofModel (Float.Model.pack (UnpackedFloat.add Format.binary64
    (Float.ofNat number).toModel.unpack (Float.ofNat 0 * Float.ofNat factor).toModel.unpack)) = _
  rw [unpack_ofNat number small, product, whole_add_zero, ← toModel_ofNat number small]

end Gatehouse.Doubles

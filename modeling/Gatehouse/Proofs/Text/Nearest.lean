import Gatehouse.Proofs.Text.Rounding

/-!
# Nearest doubles

What it means that a double is the nearest one to a number (`Nearest`): no finite
double is nearer, and of two that are as near it is the even one; from the middle
between the greatest double and the power of two after it on, it is infinite.
Reading a decimal gives its nearest double (`nearest_ofScaled`), and this is the
only one (`nearest_iff`).
-/

set_option autoImplicit false

namespace Gatehouse.Doubles

open Float.Model UnpackedFloat
open Shortest (infinityBits size)

/-! ## What a double stands for -/

/-- A finite double without its sign. -/
def magnitude? (double : Float) : Option ℚ :=
  match double.toModel.unpack with
  | .zero _ => some 0
  | .finite _ mantissa exponent _ => some (mantissa * 2 ^ exponent)
  | _ => none

def negative (double : Float) : Bool :=
  match double.toModel.unpack with
  | .zero sign => sign == .negative
  | .finite sign _ _ _ => sign == .negative
  | .infinity sign => sign == .negative
  | .notANumber => false

/-- A number without a sign is read as the double. -/
inductive Nearest (number : ℚ) (double : Float) : Prop
  | finite {value : ℚ} (is : magnitude? double = some value)
      (inside : number < 2 ^ 1024 - 2 ^ 970)
      (closest : ∀ other rival, magnitude? other = some rival →
        |number - value| ≤ |number - rival|)
      (even : ∀ other rival, magnitude? other = some rival → rival ≠ value →
        |number - rival| = |number - value| → double.toBits.toNat % 2 = 0)
  | infinite (is : double.isInf = true) (beyond : 2 ^ 1024 - 2 ^ 970 ≤ number)

/-! ## Patterns -/

/-- The pattern of a double without its sign. -/
def pattern (double : Float) : Nat :=
  double.toBits.toNat % 2 ^ 63

theorem toNat_unpackMantissa (bits : BitVec 64) :
    (@unpackMantissa Format.binary64 bits).toNat = bits.toNat % 2 ^ 52 := by
  simp [unpackMantissa, BitVec.extractLsb]

theorem toNat_unpackExponent (bits : BitVec 64) :
    (@unpackExponent Format.binary64 bits).toNat = bits.toNat / 2 ^ 52 % 2 ^ 11 := by
  simp [unpackExponent, BitVec.extractLsb, Nat.shiftRight_eq_div_pow]

theorem toNat_unpackSign (bits : BitVec 64) :
    (@unpackSign Format.binary64 bits).toNat = bits.toNat / 2 ^ 63 := by
  have bound : bits.toNat < 2 ^ 64 := bits.isLt
  simp [unpackSign, BitVec.extractLsb, Nat.shiftRight_eq_div_pow]
  omega

theorem unpackExponent_eq_iff (bits : BitVec 64) (exponent : BitVec 11) :
    @unpackExponent Format.binary64 bits = exponent ↔
      bits.toNat / 2 ^ 52 % 2 ^ 11 = exponent.toNat := by
  rw [← toNat_unpackExponent, BitVec.toNat_inj]

theorem unpackMantissa_eq_zero_iff (bits : BitVec 64) :
    @unpackMantissa Format.binary64 bits = 0#52 ↔ bits.toNat % 2 ^ 52 = 0 := by
  rw [← toNat_unpackMantissa, ← BitVec.toNat_inj]
  rfl

theorem toNat_implicit (mantissa : BitVec 52) : (1#1 ++ mantissa).toNat = 2 ^ 52 + mantissa.toNat := by
  have bound := mantissa.isLt
  rw [BitVec.toNat_append, Nat.shiftLeft_eq]
  show 1 * 2 ^ 52 ||| mantissa.toNat = _
  rw [Nat.one_mul, Nat.or_comm, Nat.or_two_pow_eq_add_of_lt bound, Nat.add_comm]

/-- What a pattern is, by its biased exponent. -/
inductive Unpacked (bits : Nat) (sign : Sign) : UnpackedFloat → Prop
  | infinity (is : bits % 2 ^ 63 = infinityBits) : Unpacked bits sign (.infinity sign)
  | nan (beyond : infinityBits < bits % 2 ^ 63) : Unpacked bits sign .notANumber
  | zero (is : bits % 2 ^ 63 = 0) : Unpacked bits sign (.zero sign)
  | subnormal {mantissa : Nat} (positive : 0 < mantissa) (less : mantissa < 2 ^ 52)
      (is : bits % 2 ^ 63 = mantissa) :
      Unpacked bits sign (.finite sign mantissa (-1074) positive)
  | normal {mantissa biased : Nat} (positive : 0 < mantissa) (least : 2 ^ 52 ≤ mantissa)
      (less : mantissa < 2 ^ 53) (most : biased < 2046)
      (is : bits % 2 ^ 63 = biased * 2 ^ 52 + mantissa) :
      Unpacked bits sign (.finite sign mantissa (biased - 1074) positive)

theorem unpacked (bits : BitVec 64) :
    Unpacked bits.toNat (Sign.ofBitVec (@unpackSign Format.binary64 bits))
      (UnpackedFloat.unpack Format.binary64 bits) := by
  have bound : bits.toNat < 2 ^ 64 := bits.isLt
  have cut : infinityBits = 2047 * 2 ^ 52 := rfl
  have ones : (-1#11 : BitVec 11).toNat = 2047 := rfl
  have none : (0#11 : BitVec 11).toNat = 0 := rfl
  simp only [UnpackedFloat.unpack]
  split
  · rename_i great
    rw [unpackExponent_eq_iff, ones] at great
    split
    · rename_i empty
      rw [unpackMantissa_eq_zero_iff] at empty
      exact .infinity (by omega)
    · rename_i filled
      rw [unpackMantissa_eq_zero_iff] at filled
      exact .nan (by omega)
  · rename_i finite
    rw [unpackExponent_eq_iff, ones] at finite
    split
    · rename_i least
      rw [unpackExponent_eq_iff, none] at least
      split
      · rename_i empty
        rw [unpackMantissa_eq_zero_iff] at empty
        exact .zero (by omega)
      · rename_i filled
        rw [unpackMantissa_eq_zero_iff] at filled
        have exponent : ((@unpackExponent Format.binary64 bits).toNat : Int) -
            (Format.binary64.exponentBias + Format.binary64.mantissaBitsWithoutImplicit) + 1 =
              -1074 := by
          rw [toNat_unpackExponent, least]
          rfl
        rw [exponent]
        refine .subnormal _ ?_ ?_ <;> rw [toNat_unpackMantissa] <;> omega
    · rename_i normal
      rw [unpackExponent_eq_iff, none] at normal
      have exponent : ((@unpackExponent Format.binary64 bits).toNat : Int) -
          (Format.binary64.exponentBias + Format.binary64.mantissaBitsWithoutImplicit) =
            (bits.toNat / 2 ^ 52 % 2 ^ 11 - 1 : Nat) - 1074 := by
        rw [toNat_unpackExponent]
        show ((bits.toNat / 2 ^ 52 % 2 ^ 11 : Nat) : Int) - (1023 + 52) = _
        omega
      rw [exponent]
      refine .normal _ ?_ ?_ ?_ ?_
      all_goals try rw [toNat_implicit, toNat_unpackMantissa]
      all_goals omega

theorem exists_unpacked (bits : UInt64) :
    ∃ sign, (Sign.toBitVec sign).toNat = bits.toNat / 2 ^ 63 ∧
      Unpacked bits.toNat sign (UnpackedFloat.unpack Format.binary64 bits.toBitVec) := by
  refine ⟨_, ?_, unpacked bits.toBitVec⟩
  have back : ∀ bit : BitVec 1, (Sign.ofBitVec bit).toBitVec = bit := by decide
  rw [back, toNat_unpackSign]
  rfl

theorem unpacked_toBits (double : Float) :
    ∃ sign, (Sign.toBitVec sign).toNat = double.toBits.toNat / 2 ^ 63 ∧
      Unpacked double.toBits.toNat sign double.toModel.unpack :=
  exists_unpacked double.toModel.toBits

theorem magnitude?_eq (double : Float) :
    magnitude? double =
      if pattern double < infinityBits then some (Shortest.value (pattern double)) else none := by
  obtain ⟨sign, -, is⟩ := unpacked_toBits double
  have cut : infinityBits = 2047 * 2 ^ 52 := rfl
  unfold magnitude? pattern
  generalize double.toModel.unpack = unpacked at is ⊢
  cases is with
  | infinity is => rw [is, if_neg (lt_irrefl _)]
  | nan beyond => rw [if_neg beyond.not_gt]
  | zero is =>
      rw [is, if_pos (by decide), Shortest.value, Shortest.size_zero, Nat.cast_zero, zero_div]
  | @subnormal mantissa positive less is =>
      have here := Shortest.value_stretch 0 mantissa (by omega) (.inr rfl)
      rw [Nat.zero_mul, Nat.zero_add] at here
      rw [is, if_pos (by omega), here]
      rfl
  | @normal mantissa biased positive least less most is =>
      rw [is, if_pos (by omega), Shortest.value_stretch biased mantissa less.le (.inl least)]
      rfl

theorem isInf_iff (double : Float) : double.isInf = true ↔ pattern double = infinityBits := by
  obtain ⟨sign, -, is⟩ := unpacked_toBits double
  have cut : infinityBits = 2047 * 2 ^ 52 := rfl
  show double.toModel.unpack.isInf = true ↔ _
  unfold pattern
  generalize double.toModel.unpack = unpacked at is ⊢
  cases is <;> simp only [UnpackedFloat.isInf, true_iff, false_iff, Bool.false_eq_true] <;> omega

theorem isNaN_iff (double : Float) : double.isNaN = true ↔ infinityBits < pattern double := by
  obtain ⟨sign, -, is⟩ := unpacked_toBits double
  have cut : infinityBits = 2047 * 2 ^ 52 := rfl
  show double.toModel.unpack.isNaN = true ↔ _
  unfold pattern
  generalize double.toModel.unpack = unpacked at is ⊢
  cases is <;> simp only [UnpackedFloat.isNaN, true_iff, false_iff, Bool.false_eq_true] <;> omega

theorem negative_iff (double : Float) (number : pattern double ≤ infinityBits) :
    negative double = true ↔ double.toBits.toNat / 2 ^ 63 = 1 := by
  obtain ⟨sign, first, is⟩ := unpacked_toBits double
  have bit : (sign == .negative) = true ↔ double.toBits.toNat / 2 ^ 63 = 1 := by
    rw [← first]
    cases sign <;> decide
  unfold negative
  unfold pattern at number
  generalize double.toModel.unpack = unpacked at is ⊢
  cases is with
  | nan beyond => exact absurd number beyond.not_ge
  | _ => exact bit

/-! ## Doubles of patterns -/

theorem toNat_packComponents (sign : Sign) (exponent : BitVec 11) (mantissa : BitVec 52) :
    (packComponents Format.binary64 sign exponent mantissa).toNat =
      sign.toBitVec.toNat * 2 ^ 63 + exponent.toNat * 2 ^ 52 + mantissa.toNat := by
  have least := mantissa.isLt
  have middle : (sign.toBitVec ++ exponent).toNat = sign.toBitVec.toNat * 2 ^ 11 + exponent.toNat := by
    rw [BitVec.toNat_append, ← Nat.shiftLeft_add_eq_or_of_lt exponent.isLt, Nat.shiftLeft_eq]
  show (sign.toBitVec ++ exponent ++ mantissa).toNat = _
  rw [BitVec.toNat_append, ← Nat.shiftLeft_add_eq_or_of_lt mantissa.isLt, Nat.shiftLeft_eq, middle]
  omega

theorem toBits_ofBits (bits : UInt64) (number : bits.toNat % 2 ^ 63 ≤ infinityBits) :
    (Float.ofBits bits).toBits = bits := by
  obtain ⟨sign, first, is⟩ := exists_unpacked bits
  have cut : infinityBits = 2047 * 2 ^ 52 := rfl
  rw [← UInt64.toNat_inj]
  show (UnpackedFloat.pack Format.binary64
    (UnpackedFloat.unpack Format.binary64 bits.toBitVec)).toNat = bits.toNat
  generalize UnpackedFloat.unpack Format.binary64 bits.toBitVec = unpacked at is ⊢
  cases is with
  | nan beyond => exact absurd number beyond.not_ge
  | infinity is =>
      rw [UnpackedFloat.pack, packedInfinity, toNat_packComponents, first]
      show bits.toNat / 2 ^ 63 * 2 ^ 63 + 2047 * 2 ^ 52 + 0 = _
      omega
  | zero is =>
      rw [UnpackedFloat.pack, packedZero, toNat_packComponents, first]
      show bits.toNat / 2 ^ 63 * 2 ^ 63 + 0 * 2 ^ 52 + 0 = _
      omega
  | @subnormal mantissa positive less is =>
      have short : mantissa.log2 < 52 := (Nat.log2_lt positive.ne').mpr less
      have finite : ¬ 2 ^ Format.binary64.exponentBits ≤
          ((-1074 : Int) + Format.binary64.exponentBias +
            Format.binary64.mantissaBitsWithoutImplicit).toNat + 1 := by decide
      have low : ¬ mantissa.log2 + 1 = Format.binary64.mantissaBits := by
        show ¬ mantissa.log2 + 1 = 53
        omega
      simp only [UnpackedFloat.pack, if_neg finite, if_neg low]
      rw [toNat_packComponents, first, BitVec.toNat_ofNat]
      show bits.toNat / 2 ^ 63 * 2 ^ 63 + 0 * 2 ^ 52 + mantissa % 2 ^ 52 = _
      omega
  | @normal mantissa biased positive least less most is =>
      have full : mantissa.log2 + 1 = Format.binary64.mantissaBits := by
        show mantissa.log2 + 1 = 53
        rw [Nat.add_right_cancel_iff (n := 1) (k := 52), Nat.log2_eq_iff positive.ne']
        exact ⟨least, less⟩
      have exponent : ((biased - 1074 : Int) + Format.binary64.exponentBias +
          Format.binary64.mantissaBitsWithoutImplicit).toNat = biased + 1 := by
        show ((biased - 1074 : Int) + 1023 + 52).toNat = biased + 1
        omega
      have finite : ¬ 2 ^ Format.binary64.exponentBits ≤ biased + 1 + 1 := by
        show ¬ 2048 ≤ biased + 1 + 1
        omega
      simp only [UnpackedFloat.pack, exponent, if_neg finite, if_pos full]
      rw [toNat_packComponents, first, BitVec.toNat_ofNat, BitVec.toNat_ofNat]
      show bits.toNat / 2 ^ 63 * 2 ^ 63 + (biased + 1) % 2 ^ 11 * 2 ^ 52 + mantissa % 2 ^ 52 = _
      omega

theorem toBits_ofNat (bits : Nat) (word : bits < 2 ^ 64) (number : bits % 2 ^ 63 ≤ infinityBits) :
    (Float.ofBits (UInt64.ofNat bits)).toBits.toNat = bits := by
  have stored : (UInt64.ofNat bits).toNat = bits := UInt64.toNat_ofNat_of_lt' word
  rw [toBits_ofBits _ (by rw [stored]; exact number), stored]

theorem exists_double (bits : Nat) (finite : bits < infinityBits) :
    ∃ double, pattern double = bits ∧ magnitude? double = some (Shortest.value bits) := by
  have cut : infinityBits = 2047 * 2 ^ 52 := rfl
  have here : pattern (Float.ofBits (UInt64.ofNat bits)) = bits := by
    rw [pattern, toBits_ofNat bits (by omega) (by omega)]
    omega
  refine ⟨_, here, ?_⟩
  rw [magnitude?_eq, here, if_pos finite]

/-! ## The nearest double -/

theorem eq_value_of_magnitude? {double : Float} {value : ℚ}
    (is : magnitude? double = some value) :
    pattern double < infinityBits ∧ value = Shortest.value (pattern double) := by
  rw [magnitude?_eq] at is
  split at is
  · exact ⟨‹_›, (Option.some.inj is).symm⟩
  · cases is

theorem even_pattern (double : Float) :
    double.toBits.toNat % 2 = 0 ↔ pattern double % 2 = 0 := by
  rw [pattern]
  omega

theorem reads_of_nearest {number : ℚ} {double : Float} (nonneg : 0 ≤ number)
    (nearest : Nearest number double) : Shortest.Reads number (pattern double) := by
  have unit : (0 : ℚ) < 2 ^ 1074 := by positivity
  cases nearest with
  | finite is inside closest even =>
      obtain ⟨finite, rfl⟩ := eq_value_of_magnitude? is
      rw [even_pattern] at even
      generalize pattern double = bits at finite closest even ⊢
      -- both neighbours are doubles, but for the one after the last
      have nearer (other : Nat) (less : other < infinityBits) :
          |number * 2 ^ 1074 - size bits| ≤ |number * 2 ^ 1074 - size other| := by
        obtain ⟨rival, -, stands⟩ := exists_double other less
        rw [Shortest.abs_sub_size, Shortest.abs_sub_size]
        exact mul_le_mul_of_nonneg_right (closest rival _ stands) unit.le
      have tie (other : Nat) (less : other < infinityBits) (differ : other ≠ bits)
          (same : |number * 2 ^ 1074 - size other| = |number * 2 ^ 1074 - size bits|) :
          bits % 2 = 0 := by
        obtain ⟨rival, -, stands⟩ := exists_double other less
        rw [Shortest.abs_sub_size, Shortest.abs_sub_size, mul_left_inj' unit.ne'] at same
        exact even rival _ stands (Shortest.value_strictMono.injective.ne differ) same
      refine ⟨bits, ⟨?_, ?_⟩, (min_eq_right finite.le).symm⟩
      · rcases Nat.lt_or_eq_of_le finite with less | last
        · exact Shortest.below_of_closest (nearer _ less) (tie _ less (by omega))
        · have here : bits = infinityBits - 1 := by omega
          rw [here, Shortest.middle_last]
          exact .inl (mul_lt_mul_of_pos_left (mul_lt_mul_of_pos_right inside unit) two_pos)
      · rintro lower rfl
        exact Shortest.above_of_closest (nearer lower (by omega)) (tie lower (by omega) (by omega))
  | infinite is beyond =>
      rw [(isInf_iff double).mp is]
      obtain ⟨bits, free, rounds, rfl⟩ := Shortest.exists_reads number nonneg
      refine ⟨free, rounds, (min_eq_left (Nat.le_of_not_lt fun finite => ?_)).symm⟩
      have inside := rounds.lt_infinityBits_iff.mp finite
      rw [Shortest.middle_last] at inside
      exact absurd (lt_of_mul_lt_mul_left inside two_pos.le)
        (mul_le_mul_of_nonneg_right beyond unit.le).not_gt

theorem nearest_of_reads {number : ℚ} {double : Float}
    (reads : Shortest.Reads number (pattern double)) : Nearest number double := by
  have unit : (0 : ℚ) < 2 ^ 1074 := by positivity
  obtain ⟨free, rounds, is⟩ := reads
  have cut := rounds.lt_infinityBits_iff
  rw [Shortest.middle_last] at cut
  by_cases finite : free < infinityBits
  · have here : pattern double = free := by omega
    subst here
    have inside := lt_of_mul_lt_mul_left (cut.mp finite) two_pos.le
    refine .finite (by rw [magnitude?_eq, if_pos finite]) (lt_of_mul_lt_mul_right inside unit.le)
      ?_ ?_
    · intro other rival stands
      obtain ⟨-, rfl⟩ := eq_value_of_magnitude? stands
      have closest := rounds.closest (pattern other)
      rw [Shortest.abs_sub_size, Shortest.abs_sub_size] at closest
      exact le_of_mul_le_mul_right closest unit
    · intro other rival stands differ same
      obtain ⟨-, rfl⟩ := eq_value_of_magnitude? stands
      refine (even_pattern double).mpr (rounds.even (fun equal => differ (congrArg Shortest.value equal)) ?_)
      rw [Shortest.abs_sub_size, Shortest.abs_sub_size, same]
  · have here : pattern double = infinityBits := by omega
    refine .infinite ((isInf_iff double).mpr here) (le_of_mul_le_mul_right ?_ unit)
    exact le_of_mul_le_mul_left (not_lt.mp fun less => finite (cut.mpr less)) two_pos

/-- What a number is read as is settled by the number and a sign. -/
theorem nearest_iff {number : ℚ} (nonneg : 0 ≤ number) (double : Float) :
    Nearest number double ↔ Shortest.Reads number (pattern double) :=
  ⟨reads_of_nearest nonneg, nearest_of_reads⟩

/-- Both are no numbers, or they have one sign and one pattern without it. -/
def Same (double other : Float) : Prop :=
  (double.isNaN = true ∧ other.isNaN = true) ∨
    (pattern double = pattern other ∧ negative double = negative other)

theorem Nearest.same {number : ℚ} {double other : Float} (nonneg : 0 ≤ number)
    (nearest : Nearest number double) (also : Nearest number other)
    (side : negative double = negative other) : Same double other :=
  .inr ⟨(reads_of_nearest nonneg nearest).unique (reads_of_nearest nonneg also), side⟩

theorem toBits_ofScaled (negative : Bool) (significand : Nat) (scale : Int) :
    (Shortest.ofScaled negative significand scale).toBits.toNat =
      (if negative then 2 ^ 63 else 0) + Shortest.scaledBits significand scale := by
  obtain ⟨free, -, is⟩ := Shortest.reads_scaledBits significand scale
  have most : Shortest.scaledBits significand scale ≤ infinityBits := is.trans_le (min_le_left _ _)
  have cut : infinityBits = 2047 * 2 ^ 52 := rfl
  rw [Shortest.ofScaled, Nat.pow_eq]
  cases negative with
  | true => exact toBits_ofNat _ (by rw [if_pos rfl]; omega) (by rw [if_pos rfl]; omega)
  | false =>
      exact toBits_ofNat _ (by rw [if_neg Bool.false_ne_true]; omega)
        (by rw [if_neg Bool.false_ne_true]; omega)

theorem nearest_ofScaled (sign : Bool) (significand : Nat) (scale : Int) :
    Nearest (significand * 10 ^ scale) (Shortest.ofScaled sign significand scale) ∧
      negative (Shortest.ofScaled sign significand scale) = sign := by
  have bits := toBits_ofScaled sign significand scale
  have reads := Shortest.reads_scaledBits significand scale
  have most : Shortest.scaledBits significand scale ≤ infinityBits := by
    obtain ⟨free, -, is⟩ := reads
    exact is.trans_le (min_le_left _ _)
  have cut : infinityBits = 2047 * 2 ^ 52 := rfl
  have here : pattern (Shortest.ofScaled sign significand scale) =
      Shortest.scaledBits significand scale := by
    rw [pattern, bits]
    split <;> omega
  refine ⟨nearest_of_reads (here ▸ reads), ?_⟩
  have first := negative_iff _ (here ▸ most)
  rw [Bool.eq_iff_iff, first, bits]
  cases sign with
  | false =>
      rw [if_neg Bool.false_ne_true]
      exact iff_of_false (by omega) Bool.false_ne_true
  | true =>
      rw [if_pos rfl]
      exact iff_of_true (by omega) rfl

end Gatehouse.Doubles

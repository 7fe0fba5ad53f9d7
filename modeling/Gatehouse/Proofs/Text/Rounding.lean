import Mathlib
import Gatehouse.Text.Shortest

/-!
# Rounding to patterns

Without their signs doubles are multiples of the least one.  Their sizes grow with
their patterns, in steps that are powers of two (`size_succ`), and a number is
rounded to the pattern that has it between the middles on its two sides
(`Rounds`).  To this pattern a fraction is taken (`rounds_nearestBits`), there is
no other (`Rounds.unique`), and of two numbers the greater is not rounded to the
lesser pattern (`Rounds.mono`).
-/

set_option autoImplicit false

namespace Gatehouse.Shortest

/-! ## Sizes -/

/-- The power of two by which the size of the next pattern is greater. -/
def gap (bits : Nat) : Nat :=
  2 ^ (bits / 2 ^ 52 - 1)

/-- A pattern lies in a stretch of equal steps. -/
theorem exists_stretch (bits : Nat) :
    ∃ exponent step, bits = exponent * 2 ^ 52 + step ∧ step < 2 ^ 53 ∧
      (2 ^ 52 ≤ step ∨ exponent = 0) ∧ bits / 2 ^ 52 - 1 = exponent := by
  refine ⟨bits / 2 ^ 52 - 1, bits - (bits / 2 ^ 52 - 1) * 2 ^ 52, ?_, ?_, ?_, rfl⟩
  all_goals omega

theorem size_stretch (exponent step : Nat) (most : step ≤ 2 ^ 53)
    (least : 2 ^ 52 ≤ step ∨ exponent = 0) :
    size (exponent * 2 ^ 52 + step) = step * 2 ^ exponent := by
  rcases Nat.lt_or_eq_of_le most with less | rfl
  · have here : (exponent * 2 ^ 52 + step) / 2 ^ 52 - 1 = exponent := by omega
    simp only [size, Nat.pow_eq, here]
    rw [Nat.add_sub_cancel_left]
  · -- the stretch ends where the next one starts
    have next : (exponent * 2 ^ 52 + 2 ^ 53) / 2 ^ 52 - 1 = exponent + 1 := by omega
    have start : exponent * 2 ^ 52 + 2 ^ 53 - (exponent + 1) * 2 ^ 52 = 2 ^ 52 := by omega
    simp only [size, Nat.pow_eq, next, start]
    rw [← Nat.pow_add, ← Nat.pow_add, Nat.add_left_comm, Nat.add_comm exponent]

theorem size_succ (bits : Nat) : size (bits + 1) = size bits + gap bits := by
  obtain ⟨exponent, step, rfl, less, least, here⟩ := exists_stretch bits
  rw [gap, here, Nat.add_assoc, size_stretch exponent (step + 1) less (by omega),
    size_stretch exponent step less.le least, Nat.add_mul, Nat.one_mul]

theorem gap_pos (bits : Nat) : 0 < gap bits :=
  Nat.two_pow_pos _

theorem gap_mono {bits other : Nat} (le : bits ≤ other) : gap bits ≤ gap other :=
  Nat.pow_le_pow_right (by decide) (Nat.sub_le_sub_right (Nat.div_le_div_right le) 1)

theorem size_strictMono : StrictMono size :=
  strictMono_nat_of_lt_succ fun bits => by
    rw [size_succ]
    exact Nat.lt_add_of_pos_right (gap_pos bits)

theorem size_zero : size 0 = 0 := rfl

theorem two_pow_mul {a b c d : Nat} (same : a + b = c + d) : 2 ^ a * 2 ^ b = 2 ^ c * 2 ^ d := by
  rw [← Nat.pow_add, same, Nat.pow_add]

/-- Infinity has the place of the power of two after the last finite double. -/
theorem size_infinityBits : size infinityBits = 2 ^ 1024 * 2 ^ 1074 := by
  have cut : infinityBits = 2045 * 2 ^ 52 + 2 ^ 53 := by decide
  rw [cut, size_stretch 2045 (2 ^ 53) le_rfl (.inl (by decide))]
  exact two_pow_mul (by decide)

/-- Neighbours differ by more than one part in `10 ^ 16`. -/
theorem size_lt_gap (bits : Nat) : size (bits + 1) < 10 ^ 16 * gap bits := by
  obtain ⟨exponent, step, rfl, less, least, here⟩ := exists_stretch bits
  rw [gap, here, Nat.add_assoc, size_stretch exponent (step + 1) less (by omega)]
  exact Nat.mul_lt_mul_of_pos_right (by omega) (Nat.two_pow_pos exponent)

theorem floorBits_spec (number : Nat) :
    size (floorBits number) ≤ number ∧ number < size (floorBits number + 1) := by
  have power := Nat.two_pow_pos (number.log2 - 52)
  have below : number / 2 ^ (number.log2 - 52) < 2 ^ 53 := by
    rw [Nat.div_lt_iff_lt_mul power, ← Nat.pow_add]
    exact Nat.lt_of_lt_of_le Nat.lt_log2_self (Nat.pow_le_pow_right (by decide) (by omega))
  have above : 2 ^ 52 ≤ number / 2 ^ (number.log2 - 52) ∨ number.log2 - 52 = 0 := by
    by_cases short : number.log2 ≤ 52
    · exact .inr (Nat.sub_eq_zero_of_le short)
    · refine .inl ?_
      have filled : number ≠ 0 := by
        rintro rfl
        exact short (by decide)
      rw [Nat.le_div_iff_mul_le power, ← Nat.pow_add, Nat.add_sub_cancel' (by omega)]
      exact Nat.log2_self_le filled
  simp only [floorBits, Nat.pow_eq]
  rw [Nat.add_assoc, size_stretch _ _ below.le above, size_stretch _ _ below (by omega)]
  exact ⟨Nat.div_mul_le_self _ _, (Nat.div_lt_iff_lt_mul power).mp (Nat.lt_succ_self _)⟩

/-! ## Middles -/

/-- Twice the middle between a pattern and the next. -/
def middle (bits : Nat) : Nat :=
  size bits + size (bits + 1)

theorem middle_strictMono : StrictMono middle := fun _ _ less =>
  Nat.add_lt_add (size_strictMono less) (size_strictMono (Nat.succ_lt_succ less))

/-- The number lies between the middles around the pattern, and on one of them only if the pattern
is even. -/
structure Rounds (number : ℚ) (bits : Nat) : Prop where
  below : 2 * number < middle bits ∨ (2 * number = middle bits ∧ bits % 2 = 0)
  above : ∀ lower, bits = lower + 1 →
    (middle lower : ℚ) < 2 * number ∨ ((middle lower : ℚ) = 2 * number ∧ bits % 2 = 0)

theorem Rounds.mono {number other : ℚ} {bits otherBits : Nat} (rounds : Rounds number bits)
    (also : Rounds other otherBits) (le : number ≤ other) : bits ≤ otherBits := by
  refine Nat.le_of_not_lt fun less => ?_
  obtain ⟨lower, rfl⟩ := Nat.exists_eq_succ_of_ne_zero (Nat.ne_zero_of_lt less)
  have order : middle otherBits ≤ middle lower :=
    middle_strictMono.monotone (Nat.le_of_lt_succ less)
  have cast : (middle otherBits : ℚ) ≤ middle lower := by exact_mod_cast order
  -- between the two middles there is no room, so that both patterns are even, and neighbours
  rcases also.below with strict | ⟨tie, even⟩ <;> rcases rounds.above lower rfl with before | ⟨tied, odd⟩
  · linarith
  · linarith
  · linarith
  · have same : middle otherBits = middle lower := by
      have equal : (middle otherBits : ℚ) = middle lower := by linarith
      exact_mod_cast equal
    have next := middle_strictMono.injective same
    omega

theorem Rounds.unique {number : ℚ} {bits other : Nat} (rounds : Rounds number bits)
    (also : Rounds number other) : bits = other :=
  le_antisymm (rounds.mono also le_rfl) (also.mono rounds le_rfl)

theorem rounds_lower {number : ℚ} {bits : Nat} (least : (size bits : ℚ) ≤ number)
    (side : 2 * number < middle bits ∨ (2 * number = middle bits ∧ bits % 2 = 0)) :
    Rounds number bits := by
  refine ⟨side, ?_⟩
  rintro lower rfl
  have less : (size lower : ℚ) < size (lower + 1) := by
    exact_mod_cast size_strictMono lower.lt_succ_self
  refine .inl ?_
  rw [middle]
  push_cast
  linarith

theorem rounds_upper {number : ℚ} {bits : Nat} (most : number ≤ size (bits + 1))
    (side : (middle bits : ℚ) < 2 * number ∨
      ((middle bits : ℚ) = 2 * number ∧ (bits + 1) % 2 = 0)) :
    Rounds number (bits + 1) := by
  refine ⟨.inl ?_, ?_⟩
  · have less : (size (bits + 1) : ℚ) < size (bits + 1 + 1) := by
      exact_mod_cast size_strictMono (bits + 1).lt_succ_self
    rw [middle]
    push_cast
    linarith
  · rintro lower same
    cases same
    exact side

theorem rounds_size (bits : Nat) : Rounds (size bits) bits := by
  refine rounds_lower le_rfl (.inl ?_)
  have less : (size bits : ℚ) < size (bits + 1) := by
    exact_mod_cast size_strictMono bits.lt_succ_self
  rw [middle]
  push_cast
  linarith

/-! ## Distances -/

theorem Rounds.le_two_mul {number : ℚ} {bits other : Nat} (rounds : Rounds number bits)
    (less : other < bits) : (size other : ℚ) + size bits ≤ 2 * number ∧
      ((size other : ℚ) + size bits = 2 * number → bits % 2 = 0) := by
  obtain ⟨lower, rfl⟩ := Nat.exists_eq_succ_of_ne_zero (Nat.ne_zero_of_lt less)
  have order : (size other : ℚ) ≤ size lower := by
    exact_mod_cast size_strictMono.monotone (Nat.le_of_lt_succ less)
  have sum : (middle lower : ℚ) = size lower + size (lower + 1) := by
    rw [middle, Nat.cast_add]
  rcases rounds.above lower rfl with strict | ⟨tie, even⟩
  · exact ⟨by linarith, fun same => by linarith⟩
  · exact ⟨by linarith, fun _ => even⟩

theorem Rounds.two_mul_le {number : ℚ} {bits other : Nat} (rounds : Rounds number bits)
    (less : bits < other) : 2 * number ≤ (size bits : ℚ) + size other ∧
      (2 * number = (size bits : ℚ) + size other → bits % 2 = 0) := by
  have order : (size (bits + 1) : ℚ) ≤ size other := by
    exact_mod_cast size_strictMono.monotone less
  have sum : (middle bits : ℚ) = size bits + size (bits + 1) := by
    rw [middle, Nat.cast_add]
  rcases rounds.below with strict | ⟨tie, even⟩
  · exact ⟨by linarith, fun same => by linarith⟩
  · exact ⟨by linarith, fun _ => even⟩

theorem abs_sub_le_abs_sub_iff {number low high : ℚ} (less : low < high) :
    |number - low| ≤ |number - high| ↔ 2 * number ≤ low + high := by
  rw [← sq_le_sq]
  constructor
  · intro order
    by_contra far
    nlinarith [mul_pos (sub_pos.mpr less) (sub_pos.mpr (not_le.mp far))]
  · intro near
    nlinarith [mul_nonneg (sub_nonneg.mpr less.le) (sub_nonneg.mpr near)]

theorem abs_sub_le_abs_sub_iff' {number low high : ℚ} (less : low < high) :
    |number - high| ≤ |number - low| ↔ low + high ≤ 2 * number := by
  have mirror : |-number - -high| ≤ |-number - -low| ↔ 2 * -number ≤ -high + -low :=
    abs_sub_le_abs_sub_iff (neg_lt_neg less)
  rw [neg_sub_neg, neg_sub_neg, abs_sub_comm high, abs_sub_comm low] at mirror
  rw [mirror]
  constructor <;> intro order <;> linarith

theorem size_lt_size {bits other : Nat} (less : bits < other) : (size bits : ℚ) < size other := by
  exact_mod_cast size_strictMono less

theorem Rounds.closest {number : ℚ} {bits : Nat} (rounds : Rounds number bits) (other : Nat) :
    |number - size bits| ≤ |number - size other| := by
  rcases Nat.lt_trichotomy bits other with less | rfl | more
  · exact (abs_sub_le_abs_sub_iff (size_lt_size less)).mpr (rounds.two_mul_le less).1
  · exact le_rfl
  · exact (abs_sub_le_abs_sub_iff' (size_lt_size more)).mpr (rounds.le_two_mul more).1

theorem Rounds.even {number : ℚ} {bits other : Nat} (rounds : Rounds number bits)
    (differ : other ≠ bits) (tie : |number - size other| = |number - size bits|) :
    bits % 2 = 0 := by
  rcases Nat.lt_or_gt_of_ne differ with less | more
  · have near := (abs_sub_le_abs_sub_iff (size_lt_size less)).mp tie.le
    obtain ⟨least, even⟩ := rounds.le_two_mul less
    exact even (le_antisymm least near)
  · have near := (abs_sub_le_abs_sub_iff' (size_lt_size more)).mp tie.le
    obtain ⟨most, even⟩ := rounds.two_mul_le more
    exact even (le_antisymm most near)

theorem below_of_closest {number : ℚ} {bits : Nat}
    (closest : |number - size bits| ≤ |number - size (bits + 1)|)
    (even : |number - size (bits + 1)| = |number - size bits| → bits % 2 = 0) :
    2 * number < middle bits ∨ (2 * number = middle bits ∧ bits % 2 = 0) := by
  have less := size_lt_size bits.lt_succ_self
  have sum : (middle bits : ℚ) = size bits + size (bits + 1) := by rw [middle, Nat.cast_add]
  have most := (abs_sub_le_abs_sub_iff less).mp closest
  rcases most.lt_or_eq with strict | same
  · exact .inl (by rw [sum]; exact strict)
  · have back := (abs_sub_le_abs_sub_iff' less).mpr same.ge
    exact .inr ⟨by rw [sum]; exact same, even (le_antisymm back closest)⟩

theorem above_of_closest {number : ℚ} {lower : Nat}
    (closest : |number - size (lower + 1)| ≤ |number - size lower|)
    (even : |number - size lower| = |number - size (lower + 1)| → (lower + 1) % 2 = 0) :
    (middle lower : ℚ) < 2 * number ∨
      ((middle lower : ℚ) = 2 * number ∧ (lower + 1) % 2 = 0) := by
  have less := size_lt_size lower.lt_succ_self
  have sum : (middle lower : ℚ) = size lower + size (lower + 1) := by rw [middle, Nat.cast_add]
  have least := (abs_sub_le_abs_sub_iff' less).mp closest
  rcases least.lt_or_eq with strict | same
  · exact .inl (by rw [sum]; exact strict)
  · have back := (abs_sub_le_abs_sub_iff less).mpr same.ge
    exact .inr ⟨by rw [sum]; exact same, even (le_antisymm back closest)⟩

/-- Finite is what a number below the last middle is rounded to. -/
theorem Rounds.lt_infinityBits_iff {number : ℚ} {bits : Nat} (rounds : Rounds number bits) :
    bits < infinityBits ↔ 2 * number < middle (infinityBits - 1) := by
  have odd : (infinityBits - 1) % 2 = 1 := by decide
  constructor
  · intro finite
    rcases Nat.lt_or_eq_of_le (Nat.le_sub_one_of_lt finite) with less | rfl
    · have order : (middle bits : ℚ) < middle (infinityBits - 1) := by
        exact_mod_cast middle_strictMono less
      rcases rounds.below with strict | ⟨tie, -⟩
      · exact strict.trans order
      · exact tie.trans_lt order
    · exact rounds.below.resolve_right fun tie => by omega
  · intro inside
    refine Nat.lt_of_not_le fun beyond => ?_
    have positive : 0 < infinityBits := by decide
    obtain ⟨lower, rfl⟩ := Nat.exists_eq_succ_of_ne_zero (show bits ≠ 0 by omega)
    have order : (middle (infinityBits - 1) : ℚ) ≤ middle lower := by
      exact_mod_cast middle_strictMono.monotone (Nat.sub_le_of_le_add beyond)
    rcases rounds.above lower rfl with strict | ⟨tie, -⟩
    · linarith
    · linarith

/-! ## Fractions -/

theorem rounds_nearestBits (top bottom : Nat) (positive : 0 < bottom) :
    Rounds (top / bottom) (nearestBits top bottom) := by
  obtain ⟨least, most⟩ := floorBits_spec (top / bottom)
  have divisor : (0 : ℚ) < bottom := by exact_mod_cast positive
  have low : (size (floorBits (top / bottom)) : ℚ) ≤ top / bottom := by
    rw [le_div_iff₀ divisor]
    exact_mod_cast (Nat.le_div_iff_mul_le positive).mp least
  have high : (top : ℚ) / bottom ≤ size (floorBits (top / bottom) + 1) := by
    rw [div_le_iff₀ divisor]
    exact_mod_cast ((Nat.div_lt_iff_lt_mul positive).mp most).le
  have double : 2 * ((top : ℚ) / bottom) = ((2 * top : Nat) : ℚ) / bottom := by
    push_cast
    ring
  simp only [nearestBits]
  rw [← middle]
  generalize floorBits (top / bottom) = bits at low high
  split
  · rename_i nearer
    refine rounds_lower low (.inl ?_)
    rw [double, div_lt_iff₀ divisor]
    exact_mod_cast nearer
  · split
    · rename_i nearer
      refine rounds_upper high (.inl ?_)
      rw [double, lt_div_iff₀ divisor]
      exact_mod_cast nearer
    · have tie : 2 * ((top : ℚ) / bottom) = middle bits := by
        rw [double, div_eq_iff divisor.ne']
        have same : 2 * top = middle bits * bottom := by omega
        exact_mod_cast same
      rcases Nat.mod_two_eq_zero_or_one bits with even | odd
      · rw [even]
        exact rounds_lower low (.inr ⟨tie, even⟩)
      · rw [odd]
        exact rounds_upper high (.inr ⟨tie.symm, by omega⟩)

/-! ## Decimals -/

/-- The number that a pattern stands for. -/
def value (bits : Nat) : ℚ :=
  size bits / 2 ^ 1074

theorem value_stretch (exponent step : Nat) (most : step ≤ 2 ^ 53)
    (least : 2 ^ 52 ≤ step ∨ exponent = 0) :
    value (exponent * 2 ^ 52 + step) = step * 2 ^ ((exponent : ℤ) - (1074 : ℕ)) := by
  rw [value, size_stretch exponent step most least, zpow_sub₀ two_ne_zero, zpow_natCast,
    zpow_natCast, Nat.cast_mul, Nat.cast_pow, Nat.cast_ofNat, mul_div_assoc]

theorem value_strictMono : StrictMono value := fun _ _ less =>
  div_lt_div_of_pos_right (size_lt_size less) (by positivity)

theorem value_mul (bits : Nat) : value bits * 2 ^ 1074 = size bits :=
  div_mul_cancel₀ _ (by positivity)

theorem abs_sub_size (number : ℚ) (bits : Nat) :
    |number * 2 ^ 1074 - size bits| = |number - value bits| * 2 ^ 1074 := by
  have positive : (0 : ℚ) < 2 ^ 1074 := by positivity
  rw [← value_mul, ← sub_mul, abs_mul, abs_of_pos positive]

theorem two_pow_split {whole first second : Nat} (same : first + second = whole) :
    (2 : ℚ) ^ whole = 2 ^ first * 2 ^ second := by
  rw [← same, pow_add]

/-- The last middle, from which on numbers are infinite. -/
theorem middle_last : (middle (infinityBits - 1) : ℚ) = 2 * ((2 ^ 1024 - 2 ^ 970) * 2 ^ 1074) := by
  have cut : infinityBits - 1 = 2045 * 2 ^ 52 + (2 ^ 53 - 1) := by decide
  have next : infinityBits - 1 + 1 = 2045 * 2 ^ 52 + 2 ^ 53 := by decide
  have here : middle (infinityBits - 1) = (2 ^ 53 - 1) * 2 ^ 2045 + 2 ^ 53 * 2 ^ 2045 := by
    rw [middle, next, cut, size_stretch 2045 (2 ^ 53 - 1) (by decide) (.inl (by decide)),
      size_stretch 2045 (2 ^ 53) le_rfl (.inl (by decide))]
  rw [here, ← Nat.add_mul, Nat.cast_mul, Nat.cast_pow, Nat.cast_ofNat,
    two_pow_split (show 970 + 1075 = 2045 by decide), two_pow_split (show 54 + 970 = 1024 by decide),
    two_pow_split (show 1 + 1074 = 1075 by decide)]
  generalize (2 : ℚ) ^ 970 = first
  generalize (2 : ℚ) ^ 1074 = second
  norm_num
  ring

/-- A number is read as a pattern: the one that it is rounded to, or infinity if that is beyond. -/
def Reads (number : ℚ) (bits : Nat) : Prop :=
  ∃ free, Rounds (number * 2 ^ 1074) free ∧ bits = min infinityBits free

theorem Reads.mono {number other : ℚ} {bits otherBits : Nat} (reads : Reads number bits)
    (also : Reads other otherBits) (le : number ≤ other) : bits ≤ otherBits := by
  obtain ⟨free, rounds, rfl⟩ := reads
  obtain ⟨otherFree, otherRounds, rfl⟩ := also
  have scaled : number * 2 ^ 1074 ≤ other * 2 ^ 1074 :=
    mul_le_mul_of_nonneg_right le (by positivity)
  exact min_le_min le_rfl (rounds.mono otherRounds scaled)

theorem Reads.unique {number : ℚ} {bits other : Nat} (reads : Reads number bits)
    (also : Reads number other) : bits = other :=
  le_antisymm (reads.mono also le_rfl) (also.mono reads le_rfl)

theorem reads_of_top_bottom (number : ℚ) (top bottom : Nat) (positive : 0 < bottom)
    (same : number * 2 ^ 1074 = top / bottom) :
    Reads number (min infinityBits (nearestBits top bottom)) :=
  ⟨_, same ▸ rounds_nearestBits top bottom positive, rfl⟩

theorem exists_reads (number : ℚ) (nonneg : 0 ≤ number) : ∃ bits, Reads number bits := by
  refine ⟨_, reads_of_top_bottom number (number.num.toNat * 2 ^ 1074) number.den number.den_pos ?_⟩
  have top : ((number.num.toNat : ℤ) : ℚ) = number.num := by
    rw [Int.toNat_of_nonneg (Rat.num_nonneg.mpr nonneg)]
  rw [Nat.cast_mul, Nat.cast_pow, mul_div_right_comm, ← Int.cast_natCast number.num.toNat, top,
    Rat.num_div_den]
  rfl

theorem reads_infinity (number : ℚ) (beyond : 2 ^ 1024 ≤ number) : Reads number infinityBits := by
  obtain ⟨bits, free, rounds, is⟩ := exists_reads number (le_trans (by positivity) beyond)
  refine ⟨free, rounds, (min_eq_left ((rounds_size infinityBits).mono rounds ?_)).symm⟩
  rw [size_infinityBits, Nat.cast_mul, Nat.cast_pow, Nat.cast_pow]
  exact mul_le_mul_of_nonneg_right beyond (by positivity)

theorem reads_zero (number : ℚ) (nonneg : 0 ≤ number) (small : number * 2 ^ 1075 < 1) :
    Reads number 0 := by
  refine ⟨0, rounds_lower ?_ (.inl ?_), (Nat.min_zero _).symm⟩
  · rw [size_zero, Nat.cast_zero]
    positivity
  · have first : middle 0 = 1 := by decide
    rw [first, Nat.cast_one]
    rw [pow_succ _ 1074] at small
    generalize (2 : ℚ) ^ 1074 = unit at small ⊢
    linarith

theorem zpow_eq_div (base : ℚ) (power : ℤ) :
    base ^ power = base ^ power.toNat / base ^ (-power).toNat := by
  rcases power.eq_nat_or_neg with ⟨count, rfl | rfl⟩
  · simp
  · simp

theorem cast_natPow (base power : Nat) : ((Nat.pow base power : Nat) : ℚ) = (base : ℚ) ^ power :=
  Nat.cast_pow base power

theorem two_pow_le_ten_pow (count : Nat) : 2 ^ (3 * count) ≤ 10 ^ count := by
  rw [Nat.pow_mul]
  exact Nat.pow_le_pow_left (by decide) count

theorem two_pow_le_scaled {significand count bits : Nat} (filled : significand ≠ 0)
    (most : bits ≤ significand.log2 + 3 * count) : 2 ^ bits ≤ significand * 10 ^ count :=
  calc 2 ^ bits ≤ 2 ^ (significand.log2 + 3 * count) := Nat.pow_le_pow_right (by decide) most
    _ = 2 ^ significand.log2 * 2 ^ (3 * count) := Nat.pow_add _ _ _
    _ ≤ significand * 10 ^ count :=
        Nat.mul_le_mul (Nat.log2_self_le filled) (two_pow_le_ten_pow count)

theorem scaled_lt_ten_pow {significand count bits : Nat}
    (most : significand.log2 + 1 + bits ≤ 3 * count) : significand * 2 ^ bits < 10 ^ count :=
  calc significand * 2 ^ bits < 2 ^ (significand.log2 + 1) * 2 ^ bits :=
        Nat.mul_lt_mul_of_pos_right Nat.lt_log2_self (Nat.two_pow_pos _)
    _ = 2 ^ (significand.log2 + 1 + bits) := (Nat.pow_add _ _ _).symm
    _ ≤ 2 ^ (3 * count) := Nat.pow_le_pow_right (by decide) most
    _ ≤ 10 ^ count := two_pow_le_ten_pow count

theorem reads_scaledBits (significand : Nat) (scale : Int) :
    Reads (significand * 10 ^ scale) (scaledBits significand scale) := by
  rw [scaledBits]
  split
  · rename_i zero
    rw [zero, Nat.cast_zero, zero_mul]
    exact reads_zero 0 le_rfl (by rw [zero_mul]; exact one_pos)
  · rename_i filled
    split
    · rename_i great
      obtain ⟨count, rfl⟩ := Int.eq_ofNat_of_zero_le great.1
      refine reads_infinity _ ?_
      have power : 2 ^ 1024 ≤ significand * 10 ^ count := two_pow_le_scaled filled (by omega)
      rw [zpow_natCast]
      exact_mod_cast power
    · split
      · rename_i small
        obtain ⟨count, rfl⟩ : ∃ count : Nat, scale = -count := ⟨(-scale).toNat, by omega⟩
        have power : significand * 2 ^ 1075 < 10 ^ count := scaled_lt_ten_pow (by omega)
        refine reads_zero _ (by positivity) ?_
        have divisor : (0 : ℚ) < 10 ^ count := by positivity
        rw [zpow_neg, zpow_natCast, ← div_eq_mul_inv, div_mul_eq_mul_div, div_lt_one divisor]
        exact_mod_cast power
      · refine reads_of_top_bottom _ _ _ (Nat.pow_pos (by decide)) ?_
        rw [zpow_eq_div, ← mul_div_assoc, div_mul_eq_mul_div]
        simp only [Nat.cast_mul, cast_natPow, Nat.cast_ofNat]

end Gatehouse.Shortest

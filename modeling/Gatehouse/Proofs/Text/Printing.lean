import Gatehouse.Proofs.Text.Nearest
import Gatehouse.Proofs.Text.Plain

/-!
# Printed doubles

A double is printed as a plain decimal that is read as it (`Doubles.Prints`): no
decimal with fewer digits is, none with as many digits is nearer, and of two that
are as near the greater is taken.  There is no other such text (`Prints.unique`).
Only the two neighbours on the grid of so many digits can be the nearest (`sides`),
and seventeen digits are always enough (`reads_of_near`), since neighbouring
doubles differ by more than one part in `10 ^ 16`.
-/

set_option autoImplicit false

namespace Gatehouse.Shortest

open Decimal (Plain)

/-- The number has a decimal of so many digits. -/
def HasDigits (count : Nat) (number : ℚ) : Prop :=
  ∃ digits : Nat, digits < 10 ^ count ∧ ∃ scale : ℤ, number = digits * 10 ^ scale

theorem HasDigits.nonneg {count : Nat} {number : ℚ} (has : HasDigits count number) :
    0 ≤ number := by
  obtain ⟨digits, _, scale, rfl⟩ := has
  positivity

/-- The printed decimal is nearer to the number than its rival is, or as near and not less. -/
def Ahead (number printed rival : ℚ) : Prop :=
  |number - printed| < |number - rival| ∨
    (|number - printed| = |number - rival| ∧ rival ≤ printed)

/-! ## The place of the first digit -/

theorem length_toDigits_bounds (number : Nat) (positive : 0 < number) :
    10 ^ ((Nat.toDigits 10 number).length - 1) ≤ number ∧
      number < 10 ^ (Nat.toDigits 10 number).length := by
  have filled := List.length_pos_of_ne_nil (@Nat.toDigits_ne_nil number 10)
  refine ⟨?_, (Nat.length_toDigits_le_iff (by decide) filled).mp le_rfl⟩
  rcases Nat.eq_zero_or_pos ((Nat.toDigits 10 number).length - 1) with single | more
  · rw [single]
    exact positive
  · refine Nat.le_of_not_lt fun less => ?_
    have short := (Nat.length_toDigits_le_iff (by decide) more).mpr less
    omega

theorem length_shifted_bounds {top bottom shift : Nat} (positive : 0 < bottom)
    (filled : bottom ≤ top * 10 ^ shift) :
    (10 : ℚ) ^ (((Nat.toDigits 10 (top * 10 ^ shift / bottom)).length : ℤ) - shift - 1) ≤
        top / bottom ∧
      (top / bottom : ℚ) <
        10 ^ (((Nat.toDigits 10 (top * 10 ^ shift / bottom)).length : ℤ) - shift) := by
  obtain ⟨least, most⟩ := length_toDigits_bounds _ (Nat.div_pos filled positive)
  have start := List.length_pos_of_ne_nil (@Nat.toDigits_ne_nil (top * 10 ^ shift / bottom) 10)
  rw [Nat.le_div_iff_mul_le positive] at least
  rw [Nat.div_lt_iff_lt_mul positive] at most
  generalize (Nat.toDigits 10 (top * 10 ^ shift / bottom)).length = length at *
  have moved (power : ℕ) : (10 : ℚ) ^ ((power : ℤ) - shift) = 10 ^ power / 10 ^ shift := by
    rw [zpow_sub₀ (by norm_num), zpow_natCast, zpow_natCast]
  have before : (length : ℤ) - shift - 1 = (length - 1 : ℕ) - shift := by omega
  have divisor : (0 : ℚ) < bottom := by exact_mod_cast positive
  rw [before, moved, moved, div_le_div_iff₀ (by positivity) divisor,
    div_lt_div_iff₀ divisor (by positivity)]
  exact ⟨by exact_mod_cast least, by exact_mod_cast most⟩

theorem magnitude_bounds {bits : Nat} (positive : 0 < bits) :
    (10 : ℚ) ^ (magnitude (size bits) - 1) ≤ value bits ∧
      value bits < 10 ^ magnitude (size bits) := by
  have filled := Nat.lt_of_le_of_lt (Nat.zero_le _) (size_strictMono positive)
  have enough : 1074 ≤ (size bits).log2 + 3 * 400 := by omega
  have cast : ((400 : ℕ) : ℤ) = 400 := rfl
  rw [magnitude, value, ← cast]
  generalize 1074 = least, 400 = shift at enough ⊢
  have bounds := length_shifted_bounds (Nat.two_pow_pos least)
    (two_pow_le_scaled filled.ne' enough)
  rw [Nat.cast_pow, Nat.cast_ofNat] at bounds
  exact bounds

/-! ## The grid of so many digits -/

theorem fraction_between {top bottom : Nat} (positive : 0 < bottom) :
    ((top / bottom : Nat) : ℚ) ≤ top / bottom ∧ (top / bottom : ℚ) < (top / bottom : Nat) + 1 ∧
      (2 * (top % bottom) < bottom ↔ 2 * (top / bottom : ℚ) < 2 * (top / bottom : Nat) + 1) := by
  have divisor : (0 : ℚ) < bottom := by exact_mod_cast positive
  have rest := Nat.mod_lt top positive
  have whole := Nat.div_add_mod top bottom
  rw [Nat.mul_comm] at whole
  refine ⟨?_, ?_, ?_⟩
  · rw [le_div_iff₀ divisor]
    exact_mod_cast Nat.div_mul_le_self top bottom
  · rw [div_lt_iff₀ divisor]
    exact_mod_cast (Nat.div_lt_iff_lt_mul positive).mp (Nat.lt_succ_self _)
  · rw [← mul_div_assoc, div_lt_iff₀ divisor]
    generalize top / bottom = low at whole ⊢
    have cast : (2 * top : ℚ) < (2 * low + 1) * bottom ↔ 2 * top < (2 * low + 1) * bottom := by
      exact_mod_cast Iff.rfl
    rw [cast, Nat.add_mul, Nat.mul_assoc]
    omega

theorem value_eq_scaled (bits : Nat) (scale : ℤ) :
    value bits = ((size bits * 10 ^ (-scale).toNat : Nat) : ℚ) /
      ((2 ^ 1074 * 10 ^ scale.toNat : Nat) : ℚ) * 10 ^ scale := by
  have unit : (2 : ℚ) ^ 1074 ≠ 0 := by positivity
  rw [zpow_eq_div 10 scale, value]
  simp only [Nat.cast_mul, Nat.cast_pow, Nat.cast_ofNat]
  generalize (2 : ℚ) ^ 1074 = unit at unit ⊢
  field_simp

/-- The scale of the last of so many digits. -/
def place (bits count : Nat) : ℤ :=
  magnitude (size bits) - count

/-- The decimals of the scale around a number. -/
structure Between (number : ℚ) (scale : ℤ) (low : Nat) : Prop where
  lower : low * 10 ^ scale ≤ number
  upper : number < (low + 1 : Nat) * 10 ^ scale

/-- The neighbour that is chosen for a double, if one of them is read as it. -/
inductive Chosen (bits : Nat) (scale : ℤ) (low : Nat) : Option Digits → Prop
  | lower (reads : Reads (low * 10 ^ scale) bits)
      (nearer : 2 * value bits < low * 10 ^ scale + (low + 1 : Nat) * 10 ^ scale ∨
        ¬ Reads ((low + 1 : Nat) * 10 ^ scale) bits) :
      Chosen bits scale low (some ⟨low, scale⟩)
  | upper (reads : Reads ((low + 1 : Nat) * 10 ^ scale) bits)
      (nearer : low * 10 ^ scale + (low + 1 : Nat) * 10 ^ scale ≤ 2 * value bits ∨
        ¬ Reads (low * 10 ^ scale) bits) :
      Chosen bits scale low (some ⟨low + 1, scale⟩)
  | none (first : ¬ Reads (low * 10 ^ scale) bits)
      (second : ¬ Reads ((low + 1 : Nat) * 10 ^ scale) bits) : Chosen bits scale low none

theorem scaledBits_eq_iff (digits : Nat) (scale : ℤ) (bits : Nat) :
    (scaledBits digits scale == bits) = true ↔ Reads (digits * 10 ^ scale) bits := by
  have reads := reads_scaledBits digits scale
  rw [beq_iff_eq]
  constructor
  · rintro rfl
    exact reads
  · exact reads.unique

theorem lower_taken_iff (first second : Bool) (nearer : Prop) [Decidable nearer] :
    (first && (decide nearer || !second)) = true ↔ first = true ∧ (nearer ∨ ¬ second = true) := by
  rw [Bool.and_eq_true, Bool.or_eq_true, decide_eq_true_eq, Bool.not_eq_true',
    ← Bool.not_eq_true]

theorem chosen_ofCount (bits count : Nat) :
    ∃ low, Between (value bits) (place bits count) low ∧
      Chosen bits (place bits count) low (ofCount .upper bits count) := by
  have same := value_eq_scaled bits (place bits count)
  simp only [ofCount, Tie.lowers, Bool.and_false, Bool.or_false]
  rw [← place]
  generalize place bits count = scale at same ⊢
  have positive : 0 < 2 ^ 1074 * 10 ^ scale.toNat := by positivity
  generalize 1074 = unit at same positive ⊢
  generalize size bits * 10 ^ (-scale).toNat = top at same ⊢
  generalize 2 ^ unit * 10 ^ scale.toNat = bottom at same positive ⊢
  obtain ⟨least, most, half⟩ := @fraction_between top bottom positive
  have grid : (0 : ℚ) < 10 ^ scale := by positivity
  have next : ((top / bottom + 1 : Nat) : ℚ) = (top / bottom : Nat) + 1 := by push_cast; rfl
  refine ⟨top / bottom, ⟨?_, ?_⟩, ?_⟩
  · rw [same]
    exact mul_le_mul_of_nonneg_right least grid.le
  · rw [same, next]
    exact mul_lt_mul_of_pos_right most grid
  · have nearer : 2 * (top % bottom) < bottom ↔ 2 * value bits <
        (top / bottom : Nat) * 10 ^ scale + (top / bottom + 1 : Nat) * 10 ^ scale := by
      rw [half, ← mul_lt_mul_iff_left₀ grid, next, same]
      constructor <;> intro less <;> linarith
    split
    · rename_i taken
      rw [lower_taken_iff, scaledBits_eq_iff, scaledBits_eq_iff, nearer] at taken
      exact .lower taken.1 taken.2
    · rename_i left
      rw [lower_taken_iff, scaledBits_eq_iff, scaledBits_eq_iff, nearer] at left
      split
      · rename_i taken
        rw [scaledBits_eq_iff] at taken
        refine .upper taken ?_
        by_cases first : Reads ((top / bottom : Nat) * 10 ^ scale) bits
        · exact .inl (not_lt.mp fun less => left ⟨first, .inl less⟩)
        · exact .inr first
      · rename_i second
        rw [scaledBits_eq_iff] at second
        exact .none (fun first => left ⟨first, .inr second⟩) second

/-! ## Decimals that are read as a double -/

theorem reads_value {bits : Nat} (finite : bits < infinityBits) : Reads (value bits) bits :=
  ⟨bits, value_mul bits ▸ rounds_size bits, (min_eq_right finite.le).symm⟩

theorem Reads.between {low number high : ℚ} {bits : Nat} (first : Reads low bits)
    (last : Reads high bits) (above : low ≤ number) (below : number ≤ high) (nonneg : 0 ≤ number) :
    Reads number bits := by
  obtain ⟨read, reads⟩ := exists_reads number nonneg
  have same : read = bits := le_antisymm (reads.mono last below) (first.mono reads above)
  exact same ▸ reads

/-- What differs from a double by less than half a part in `10 ^ 16` is read as it. -/
theorem reads_of_near {bits : Nat} {number : ℚ} (positive : 0 < bits) (finite : bits < infinityBits)
    (near : 2 * 10 ^ 16 * |value bits - number| ≤ value bits) : Reads number bits := by
  obtain ⟨lower, rfl⟩ := Nat.exists_eq_succ_of_ne_zero positive.ne'
  refine ⟨lower + 1, ?_, (min_eq_right finite.le).symm⟩
  have close : 2 * |size (lower + 1) - number * 2 ^ 1074| < (gap lower : ℚ) := by
    have step : (size (lower + 1) : ℚ) < 10 ^ 16 * gap lower := by
      exact_mod_cast size_lt_gap lower
    rw [abs_sub_comm, abs_sub_size, abs_sub_comm number]
    have scaled := mul_le_mul_of_nonneg_right near (show (0 : ℚ) ≤ 2 ^ 1074 by positivity)
    rw [value_mul] at scaled
    generalize (2 : ℚ) ^ 1074 = unit at scaled ⊢
    linarith
  generalize number * 2 ^ 1074 = scaled at close ⊢
  obtain ⟨below, above⟩ := abs_lt.mp (show |(size (lower + 1) : ℚ) - scaled| < gap lower / 2 by
    linarith)
  have wider : (gap lower : ℚ) ≤ gap (lower + 1) := by exact_mod_cast gap_mono lower.le_succ
  have first : (size (lower + 1) : ℚ) = size lower + gap lower := by
    exact_mod_cast size_succ lower
  have second : (size (lower + 1 + 1) : ℚ) = size (lower + 1) + gap (lower + 1) := by
    exact_mod_cast size_succ (lower + 1)
  refine ⟨.inl ?_, ?_⟩
  · rw [middle, Nat.cast_add, second]
    linarith
  · rintro other same
    cases same
    refine .inl ?_
    rw [middle, Nat.cast_add]
    linarith

theorem hasDigits_of_le {digits count : Nat} {scale : ℤ} (positive : 0 < count)
    (most : digits ≤ 10 ^ count) : HasDigits count (digits * 10 ^ scale) := by
  rcases Nat.lt_or_eq_of_le most with less | rfl
  · exact ⟨digits, less, scale, rfl⟩
  · refine ⟨1, Nat.one_lt_pow positive.ne' (by decide), count + scale, ?_⟩
    rw [zpow_add₀ (by norm_num), zpow_natCast, Nat.cast_one, one_mul, Nat.cast_pow, Nat.cast_ofNat]

section Grid

variable {bits count low : Nat}

/-- Decimals of so many digits do not come between the neighbours. -/
theorem sides (positive : 0 < bits) (some : 0 < count)
    (between : Between (value bits) (place bits count) low) {rival : ℚ}
    (has : HasDigits count rival) :
    rival ≤ low * 10 ^ place bits count ∨
      (low + 1 : Nat) * 10 ^ place bits count ≤ rival := by
  obtain ⟨digits, less, scale, rfl⟩ := has
  have least := (magnitude_bounds positive).1
  obtain ⟨fewer, rfl⟩ := Nat.exists_eq_succ_of_ne_zero some.ne'
  have first : magnitude (size bits) - 1 = fewer + place bits (fewer + 1) := by
    rw [place]
    push_cast
    ring
  rw [first, zpow_add₀ (by norm_num), zpow_natCast] at least
  generalize place bits (fewer + 1) = finest at between least ⊢
  have grid : (0 : ℚ) < 10 ^ finest := by positivity
  rcases le_or_gt finest scale with coarse | fine
  · -- on a coarser scale all decimals are on the grid
    obtain ⟨steps, rfl⟩ := Int.le.dest coarse
    have whole : (digits : ℚ) * 10 ^ (finest + steps) =
        (digits * 10 ^ steps : Nat) * 10 ^ finest := by
      rw [zpow_add₀ (by norm_num), zpow_natCast]
      push_cast
      ring
    rw [whole]
    rcases Nat.lt_or_ge low (digits * 10 ^ steps) with more | most
    · exact .inr (mul_le_mul_of_nonneg_right (by exact_mod_cast more) grid.le)
    · exact .inl (mul_le_mul_of_nonneg_right (by exact_mod_cast most) grid.le)
  · -- on a finer one they have less before the point than the number
    refine .inl ?_
    have short : (digits : ℚ) * 10 ^ scale ≤ 10 ^ fewer * 10 ^ finest := by
      have lower : (10 : ℚ) ^ scale ≤ 10 ^ (finest - 1) :=
        zpow_le_zpow_right₀ (by norm_num) (by omega)
      have most : (digits : ℚ) ≤ 10 ^ (fewer + 1) := by exact_mod_cast less.le
      calc (digits : ℚ) * 10 ^ scale ≤ 10 ^ (fewer + 1) * 10 ^ (finest - 1) :=
            mul_le_mul most lower (by positivity) (by positivity)
        _ = 10 ^ fewer * 10 ^ finest := by
            rw [zpow_sub_one₀ (by norm_num)]
            ring
    have inside : 10 ^ fewer ≤ low := by
      have strict := lt_of_mul_lt_mul_right (least.trans_lt between.upper) grid.le
      exact Nat.le_of_lt_succ (by exact_mod_cast strict)
    exact short.trans (mul_le_mul_of_nonneg_right (by exact_mod_cast inside) grid.le)

theorem Between.lt_ten_pow (positive : 0 < bits)
    (between : Between (value bits) (place bits count) low) : low < 10 ^ count := by
  have most := between.lower.trans_lt (magnitude_bounds positive).2
  have split : magnitude (size bits) = count + place bits count := by
    rw [place]
    ring
  have grid : (0 : ℚ) < 10 ^ place bits count := by positivity
  rw [split, zpow_add₀ (by norm_num), zpow_natCast] at most
  exact_mod_cast lt_of_mul_lt_mul_right most grid.le

theorem reads_neighbour (positive : 0 < bits) (finite : bits < infinityBits) (some : 0 < count)
    (between : Between (value bits) (place bits count) low) {rival : ℚ}
    (has : HasDigits count rival) (reads : Reads rival bits) :
    (rival ≤ low * 10 ^ place bits count ∧
      Reads (low * 10 ^ place bits count) bits) ∨
    ((low + 1 : Nat) * 10 ^ place bits count ≤ rival ∧
      Reads ((low + 1 : Nat) * 10 ^ place bits count) bits) := by
  have itself := reads_value finite
  rcases sides positive some between has with less | more
  · exact .inl ⟨less, reads.between itself less between.lower (by positivity)⟩
  · exact .inr ⟨more, itself.between reads between.upper.le more (by positivity)⟩

theorem Chosen.ahead (positive : 0 < bits) (finite : bits < infinityBits) (some : 0 < count)
    (between : Between (value bits) (place bits count) low) {decimal : Digits}
    (chosen : Chosen bits (place bits count) low (.some decimal)) {rival : ℚ}
    (has : HasDigits count rival) (reads : Reads rival bits) :
    Ahead (value bits) (decimal.digits * 10 ^ decimal.scale) rival := by
  have sides := reads_neighbour positive finite some between has reads
  obtain ⟨lower, upper⟩ := between
  generalize place bits count = scale at *
  cases chosen with
  | lower _ nearer =>
      rw [Ahead, abs_of_nonneg (sub_nonneg.mpr lower)]
      rcases sides with ⟨less, -⟩ | ⟨more, also⟩
      · rw [abs_of_nonneg (sub_nonneg.mpr (less.trans lower))]
        rcases less.lt_or_eq with strict | rfl
        · exact .inl (sub_lt_sub_left strict _)
        · exact .inr ⟨rfl, le_rfl⟩
      · have near := nearer.resolve_right (not_not.mpr also)
        rw [abs_sub_comm, abs_of_nonneg (sub_nonneg.mpr (upper.le.trans more))]
        exact .inl (by linarith)
  | upper _ nearer =>
      rw [Ahead, abs_sub_comm, abs_of_nonneg (sub_nonneg.mpr upper.le)]
      rcases sides with ⟨less, also⟩ | ⟨more, -⟩
      · have near := nearer.resolve_right (not_not.mpr also)
        rw [abs_of_nonneg (sub_nonneg.mpr (less.trans lower))]
        have far : (low + 1 : Nat) * 10 ^ scale - value bits ≤ value bits - rival := by linarith
        rcases far.lt_or_eq with strict | same
        · exact .inl strict
        · exact .inr ⟨same, less.trans (lower.trans upper.le)⟩
      · rw [abs_sub_comm, abs_of_nonneg (sub_nonneg.mpr (upper.le.trans more))]
        rcases more.lt_or_eq with strict | same
        · exact .inl (sub_lt_sub_right strict _)
        · exact .inr ⟨by rw [same], same.ge⟩

theorem ofCount_some (positive : 0 < bits) (finite : bits < infinityBits) (some : 0 < count)
    {decimal : Digits} (found : ofCount .upper bits count = .some decimal) :
    decimal.digits ≤ 10 ^ count ∧ Reads (decimal.digits * 10 ^ decimal.scale) bits ∧
      ∀ rival, HasDigits count rival → Reads rival bits →
        Ahead (value bits) (decimal.digits * 10 ^ decimal.scale) rival := by
  obtain ⟨low, between, chosen⟩ := chosen_ofCount bits count
  rw [found] at chosen
  have small := between.lt_ten_pow positive
  refine ⟨?_, ?_, fun rival => chosen.ahead positive finite some between⟩
  · cases chosen with
    | lower => exact small.le
    | upper => exact small
  · cases chosen with
    | lower reads => exact reads
    | upper reads => exact reads

theorem ofCount_none (positive : 0 < bits) (finite : bits < infinityBits) (some : 0 < count)
    (missing : ofCount .upper bits count = none) {rival : ℚ} (has : HasDigits count rival) :
    ¬ Reads rival bits := by
  obtain ⟨low, between, chosen⟩ := chosen_ofCount bits count
  rw [missing] at chosen
  intro reads
  cases chosen with
  | none first second =>
      rcases reads_neighbour positive finite some between has reads with ⟨-, also⟩ | ⟨-, also⟩
      · exact first also
      · exact second also

/-- Seventeen digits are enough: half a step of their grid is less than half a part in
`10 ^ 16`. -/
theorem ofCount_seventeen (positive : 0 < bits) (finite : bits < infinityBits) :
    ofCount .upper bits 17 ≠ none := by
  intro missing
  obtain ⟨low, between, -⟩ := chosen_ofCount bits 17
  have fits := between.lt_ten_pow positive
  have step : 10 ^ 16 * (10 : ℚ) ^ place bits 17 ≤ value bits := by
    refine le_trans (le_of_eq ?_) (magnitude_bounds positive).1
    rw [← zpow_natCast, ← zpow_add₀ (by norm_num)]
    congr 1
    rw [place]
    push_cast
    ring
  have first := ofCount_none positive finite (by decide) missing
    (@hasDigits_of_le low 17 (place bits 17) (by decide) fits.le)
  have second := ofCount_none positive finite (by decide) missing
    (@hasDigits_of_le (low + 1) 17 (place bits 17) (by decide) fits)
  obtain ⟨lower, upper⟩ := between
  rw [Nat.cast_add, Nat.cast_one, add_mul, one_mul] at upper second
  generalize (10 : ℚ) ^ place bits 17 = grid at *
  rcases le_total (2 * value bits) (2 * (low * grid) + grid) with near | far
  · refine first (reads_of_near positive finite ?_)
    rw [abs_of_nonneg (sub_nonneg.mpr lower)]
    linarith
  · refine second (reads_of_near positive finite ?_)
    rw [abs_sub_comm, abs_of_nonneg (sub_nonneg.mpr upper.le)]
    linarith

end Grid

/-! ## The fewest digits -/

theorem findSome?_range {α : Type} {find : Nat → Option α} {count : Nat} {found : α}
    (is : (List.range count).findSome? find = some found) :
    ∃ index < count, find index = some found ∧ ∀ other < index, find other = none := by
  obtain ⟨before, index, after, split, here, missing⟩ := List.findSome?_eq_some_iff.mp is
  have order := @List.pairwise_lt_range count
  have member : index ∈ List.range count := by
    rw [split]
    exact List.mem_append_right _ List.mem_cons_self
  rw [split, List.pairwise_append, List.pairwise_cons] at order
  refine ⟨index, List.mem_range.mp member, here, fun other less => missing other ?_⟩
  have inside : other ∈ List.range count :=
    List.mem_range.mpr (less.trans (List.mem_range.mp member))
  rw [split, List.mem_append, List.mem_cons] at inside
  rcases inside with first | rfl | last
  · exact first
  · exact absurd less (lt_irrefl _)
  · exact absurd (order.2.1.1 other last) less.not_gt

theorem trimmed_number (fuel : Nat) (decimal : Digits) :
    ((decimal.trimmed fuel).digits * 10 ^ (decimal.trimmed fuel).scale : ℚ) =
      decimal.digits * 10 ^ decimal.scale := by
  induction fuel generalizing decimal with
  | zero => rfl
  | succ fuel ih =>
      rw [Digits.trimmed]
      split
      · rename_i zero
        rw [Bool.and_eq_true, bne_iff_ne, beq_iff_eq] at zero
        have tens : decimal.digits / 10 * 10 = decimal.digits := by omega
        have cast : ((decimal.digits / 10 : Nat) : ℚ) * 10 = decimal.digits := by
          exact_mod_cast tens
        rw [ih, zpow_add_one₀ (by norm_num), ← cast]
        ring
      · rfl

theorem trimmed_last (fuel : Nat) (decimal : Digits) (positive : 0 < decimal.digits)
    (most : decimal.digits ≤ 10 ^ fuel) : (decimal.trimmed fuel).digits % 10 ≠ 0 := by
  induction fuel generalizing decimal with
  | zero =>
      have one : decimal.digits = 1 := le_antisymm most positive
      rw [Digits.trimmed, one]
      decide
  | succ fuel ih =>
      rw [Digits.trimmed]
      split
      · rename_i zero
        rw [Bool.and_eq_true, bne_iff_ne, beq_iff_eq] at zero
        refine ih _ (Nat.div_pos ?_ (by decide)) ?_
        · omega
        · rw [Nat.pow_succ] at most
          exact Nat.div_le_of_le_mul (by rwa [Nat.mul_comm])
      · rename_i last
        rw [Bool.and_eq_true, bne_iff_ne, beq_iff_eq] at last
        exact fun zero => last ⟨positive.ne', zero⟩

/-- No decimal with fewer digits is read as the double, and none with as many is ahead. -/
theorem ofPattern_spec {bits : Nat} (positive : 0 < bits) (finite : bits < infinityBits) :
    (ofPattern .upper bits).digits % 10 ≠ 0 ∧
      Reads ((ofPattern .upper bits).digits * 10 ^ (ofPattern .upper bits).scale) bits ∧
      ∃ count, HasDigits count
          ((ofPattern .upper bits).digits * 10 ^ (ofPattern .upper bits).scale) ∧
        ∀ rival digits, HasDigits digits rival → Reads rival bits →
          count < digits ∨ (count = digits ∧ Ahead (value bits)
            ((ofPattern .upper bits).digits * 10 ^ (ofPattern .upper bits).scale) rival) := by
  have nonzero {number : ℚ} (reads : Reads number bits) : number ≠ 0 := by
    rintro rfl
    have zero := reads.unique (reads_zero 0 le_rfl (by rw [zero_mul]; exact one_pos))
    exact positive.ne' zero
  simp only [ofPattern]
  cases search : (List.range 17).findSome? fun index => ofCount .upper bits (index + 1) with
  | none =>
      have missing := List.findSome?_eq_none_iff.mp search 16 (by decide)
      exact absurd missing (ofCount_seventeen positive finite)
  | some decimal =>
      obtain ⟨index, less, found, fewer⟩ := findSome?_range search
      obtain ⟨most, reads, ahead⟩ := ofCount_some positive finite index.succ_pos found
      rw [Option.getD_some, trimmed_number]
      refine ⟨trimmed_last 17 decimal ?_ ?_, reads, index + 1,
        hasDigits_of_le index.succ_pos most, fun rival digits has also => ?_⟩
      · refine Nat.pos_of_ne_zero fun zero => nonzero reads ?_
        rw [zero, Nat.cast_zero, zero_mul]
      · exact most.trans (Nat.pow_le_pow_right (by decide) less)
      · rcases Nat.lt_trichotomy (index + 1) digits with more | rfl | under
        · exact .inl more
        · exact .inr ⟨rfl, ahead rival has also⟩
        · exfalso
          cases digits with
          | zero =>
              obtain ⟨value, small, scale, rfl⟩ := has
              rw [Nat.lt_one_iff.mp small, Nat.cast_zero, zero_mul] at also
              exact nonzero also rfl
          | succ digits =>
              exact ofCount_none positive finite digits.succ_pos
                (fewer digits (Nat.lt_of_succ_lt_succ under)) has also

/-! ## Writing -/

theorem plain_positional (decimal : Digits) (last : decimal.digits % 10 ≠ 0) :
    Plain decimal.positional.toList (decimal.digits * 10 ^ decimal.scale) := by
  have positive : 0 < decimal.digits := Nat.pos_of_ne_zero fun zero => last (by rw [zero])
  have digits := Decimal.digits_toDigits decimal.digits
  have first := Decimal.head?_toDigits positive
  have final := Decimal.getLast?_toDigits last
  have number := @Nat.ofDigitChars_ten_toDigits decimal.digits
  simp only [Digits.positional, ← String.length_toList, Nat.toList_repr]
  split
  · rename_i whole
    obtain ⟨places, same⟩ := Int.eq_ofNat_of_zero_le whole
    have plain := Decimal.plain_zeros digits first places
    rw [number, Nat.cast_mul, Nat.cast_pow] at plain
    rw [String.toList_append, Nat.toList_repr, String.toList_ofList, same, Int.toNat_natCast,
      zpow_natCast]
    exact plain
  · rename_i below
    obtain ⟨places, same⟩ : ∃ places : Nat, decimal.scale = -places :=
      ⟨(-decimal.scale).toNat, by omega⟩
    rw [same, neg_neg, Int.toNat_natCast, zpow_neg, zpow_natCast, ← div_eq_mul_inv]
    split
    · rename_i inside
      have plain := Decimal.plain_point_inside digits first final (show 0 < places by omega) inside
      simp only [String.toList_append, String.toList_ofList, List.append_assoc]
      rw [number] at plain
      exact plain
    · rename_i before
      have plain := Decimal.plain_point_before digits final (Nat.le_of_not_lt before)
      simp only [String.toList_append, String.toList_ofList, Nat.toList_repr, List.append_assoc]
      rw [number] at plain
      exact plain

end Gatehouse.Shortest

namespace Gatehouse.Doubles

open Decimal (Plain)
open Shortest (infinityBits value HasDigits Ahead)

/-- The sign in front of a double. -/
def signed (double : Float) (chars : List Char) : List Char :=
  if negative double then '-' :: chars else chars

/-- What a double is printed as: of the decimals that are read as it one with the fewest digits, the
nearest of these to it. -/
inductive Prints (double : Float) : List Char → Prop
  | nan (is : double.isNaN = true) : Prints double "NaN".toList
  | infinite (is : double.isInf = true) : Prints double (signed double "inf".toList)
  | finite {number printed : ℚ} {chars : List Char} {count : Nat}
      (is : magnitude? double = some number) (plain : Plain chars printed)
      (reads : Nearest printed double) (has : HasDigits count printed)
      (best : ∀ rival digits, HasDigits digits rival → Nearest rival double →
        count < digits ∨ (count = digits ∧ Ahead number printed rival)) :
      Prints double (signed double chars)

theorem unsigned_eq (double : Float) (number : pattern double ≤ infinityBits) :
    Shortest.unsigned double = (if negative double then "-" else "", pattern double) := by
  have sign := negative_iff double number
  rw [Shortest.unsigned, pattern]
  simp only [Nat.pow_eq, ← sign]

theorem toList_signed (double : Float) (text : String) :
    ((if negative double then "-" else "") ++ text).toList = signed double text.toList := by
  rw [String.toList_append, signed]
  split <;> rfl

theorem prints_zero {double : Float} (zero : pattern double = 0) :
    Prints double (signed double ['0']) := by
  have stands := magnitude?_eq double
  rw [zero, if_pos (by decide)] at stands
  have plain : Plain ['0'] ((0 : Nat) : ℚ) := .whole Decimal.whole_zero
  have reads : Shortest.Reads ((0 : Nat) : ℚ) (pattern double) := by
    rw [zero, Nat.cast_zero]
    exact Shortest.reads_zero 0 le_rfl (by rw [zero_mul]; exact one_pos)
  have digitless : HasDigits 0 ((0 : Nat) : ℚ) :=
    ⟨0, by decide, 0, by rw [Nat.cast_zero, zero_mul]⟩
  refine .finite stands plain (nearest_of_reads reads) digitless fun rival digits has _ => ?_
  cases digits with
  | succ digits => exact .inl digits.succ_pos
  | zero =>
      obtain ⟨only, small, scale, rfl⟩ := has
      rw [Nat.lt_one_iff.mp small, Nat.cast_zero, zero_mul]
      exact .inr ⟨rfl, .inr ⟨rfl, le_rfl⟩⟩

theorem prints_positional {double : Float} (filled : 0 < pattern double)
    (finite : pattern double < infinityBits) :
    Prints double
      (signed double (Shortest.ofPattern .upper (pattern double)).positional.toList) := by
  have stands := magnitude?_eq double
  rw [if_pos finite] at stands
  obtain ⟨last, reads, count, has, best⟩ := Shortest.ofPattern_spec filled finite
  exact .finite stands (Shortest.plain_positional _ last) (nearest_of_reads reads) has
    fun rival digits some nearest =>
      best rival digits some (reads_of_nearest some.nonneg nearest)

theorem prints_plainText (double : Float) : Prints double (Shortest.plainText double).toList := by
  have pair : (Shortest.unsigned double).2 = pattern double := rfl
  rcases Nat.lt_or_ge infinityBits (pattern double) with beyond | number
  · rw [Shortest.plainText]
    simp only [pair, if_pos beyond]
    exact .nan ((isNaN_iff double).mpr beyond)
  · rw [Shortest.plainText, unsigned_eq double number]
    simp only [if_neg number.not_gt]
    split
    · rename_i last
      rw [toList_signed]
      exact .infinite ((isInf_iff double).mpr last)
    · rename_i finite
      split
      · rename_i zero
        rw [toList_signed]
        exact prints_zero zero
      · rename_i filled
        rw [toList_signed]
        exact prints_positional (Nat.pos_of_ne_zero filled) (Nat.lt_of_le_of_ne number finite)

/-! ## One print -/

theorem eq_of_ahead {number printed other : ℚ} (ahead : Ahead number printed other)
    (also : Ahead number other printed) : printed = other := by
  rcases ahead with strict | ⟨same, least⟩
  · rcases also with back | ⟨back, -⟩
    · exact absurd strict back.asymm
    · exact absurd strict back.le.not_gt
  · rcases also with back | ⟨-, most⟩
    · exact absurd same back.ne'
    · exact le_antisymm most least

theorem Prints.unique {double : Float} {first second : List Char} (prints : Prints double first)
    (also : Prints double second) : first = second := by
  cases prints with
  | nan is =>
      rw [isNaN_iff] at is
      cases also with
      | nan => rfl
      | infinite other => exact absurd ((isInf_iff double).mp other) is.ne'
      | finite other => exact absurd (eq_value_of_magnitude? other).1 is.not_gt
  | infinite is =>
      rw [isInf_iff] at is
      cases also with
      | nan other => exact absurd is ((isNaN_iff double).mp other).ne'
      | infinite => rfl
      | finite other => exact absurd is (eq_value_of_magnitude? other).1.ne
  | finite is plain reads has best =>
      obtain ⟨finite, rfl⟩ := eq_value_of_magnitude? is
      cases also with
      | nan other => exact absurd finite ((isNaN_iff double).mp other).not_gt
      | infinite other => exact absurd ((isInf_iff double).mp other) finite.ne
      | finite other otherPlain otherReads otherHas otherBest =>
          obtain ⟨-, rfl⟩ := eq_value_of_magnitude? other
          rcases best _ _ otherHas otherReads with fewer | ⟨rfl, ahead⟩
          · rcases otherBest _ _ has reads with more | ⟨rfl, -⟩
            · exact absurd fewer more.not_gt
            · exact absurd fewer (lt_irrefl _)
          · rcases otherBest _ _ has reads with more | ⟨-, back⟩
            · exact absurd more (lt_irrefl _)
            · cases eq_of_ahead ahead back
              rw [plain.unique otherPlain]

theorem plainText_of_same {double other : Float} (same : Same double other) :
    Shortest.plainText double = Shortest.plainText other := by
  have nan {double : Float} (is : double.isNaN = true) : Shortest.plainText double = "NaN" := by
    have pair : (Shortest.unsigned double).2 = pattern double := rfl
    rw [Shortest.plainText]
    simp only [pair, if_pos ((isNaN_iff double).mp is)]
  rcases same with ⟨first, second⟩ | ⟨pattern, side⟩
  · rw [nan first, nan second]
  · rcases Nat.lt_or_ge infinityBits (Doubles.pattern double) with beyond | number
    · rw [nan ((isNaN_iff double).mpr beyond), nan ((isNaN_iff other).mpr (pattern ▸ beyond))]
    · rw [Shortest.plainText, Shortest.plainText, unsigned_eq double number,
        unsigned_eq other (pattern ▸ number), pattern, side]

end Gatehouse.Doubles

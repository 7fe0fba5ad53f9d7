import Mathlib.Algebra.Order.Field.Rat
import Mathlib.Algebra.Order.Ring.Abs
import Mathlib.Data.List.Chain
import Mathlib.Data.List.Nodup
import Mathlib.Data.List.Range
import Mathlib.Logic.Function.Iterate
import Mathlib.Tactic.FieldSimp
import Mathlib.Tactic.Linarith
import Mathlib.Tactic.Ring
import Gatehouse.Proofs.Captcha.Painting

/-!
# Lines are exact

A walk along a line takes one step along its longer side each time, and stands as far along the
shorter side as the ideal segment does there, rounded to the nearest whole number (`drift`).  All
else about a line follows from that closed form.  Lines that are higher than wide are those that are
wider than high with the two coordinates exchanged.
-/

set_option autoImplicit false

namespace Gatehouse.Captcha.Line

/-! ## Rounding -/

/-- The ideal height after `count` steps along the longer side, `count * short / long`, rounded to
the nearest whole number and down from a half. -/
def drift (long short count : Nat) : Nat :=
  (2 * (count * short) + long - 1) / (2 * long)

theorem drift_bounds (long short count : Nat) (positive : 0 < long) :
    2 * (drift long short count * long) + 1 ≤ 2 * (count * short) + long ∧
      2 * (count * short) ≤ 2 * (drift long short count * long) + long := by
  have divided := Nat.div_add_mod (2 * (count * short) + long - 1) (2 * long)
  have rest := Nat.mod_lt (2 * (count * short) + long - 1) (Nat.mul_pos two_pos positive)
  rw [← drift, Nat.mul_comm (2 * long), Nat.mul_left_comm] at divided
  omega

/-- There is one whole number that close to the ideal height. -/
theorem eq_drift (long short count height : Nat)
    (above : 2 * (height * long) + 1 ≤ 2 * (count * short) + long)
    (below : 2 * (count * short) ≤ 2 * (height * long) + long) :
    drift long short count = height := by
  have here : height * (2 * long) = 2 * (height * long) := Nat.mul_left_comm _ _ _
  have next : (height + 1) * (2 * long) = 2 * (height * long) + 2 * long := by
    rw [Nat.succ_mul, here]
  exact Nat.div_eq_of_lt_le (by omega) (by omega)

@[simp] theorem drift_zero (long short : Nat) : drift long short 0 = 0 := by
  rcases Nat.eq_zero_or_pos long with rfl | positive
  · simp [drift]
  · exact eq_drift long short 0 0 (by omega) (by omega)

theorem drift_end (long short : Nat) (shorter : short ≤ long) : drift long short long = short := by
  rcases Nat.eq_zero_or_pos long with rfl | positive
  · simp only [drift_zero]
    omega
  · have swapped := Nat.mul_comm long short
    exact eq_drift long short long short (by omega) (by omega)

theorem drift_diagonal (long count : Nat) (positive : 0 < long) : drift long long count = count :=
  eq_drift long long count count (by omega) (by omega)

/-- One step further the ideal segment has risen by at most one, and by one if the middle between
two whole heights lies below it. -/
theorem drift_succ (long short count : Nat) (positive : 0 < long) (shorter : short ≤ long) :
    drift long short (count + 1) =
      if 2 * (drift long short count * long) + long < 2 * (count * short) + 2 * short then
        drift long short count + 1
      else drift long short count := by
  have bounds := drift_bounds long short count positive
  have next : (count + 1) * short = count * short + short := Nat.succ_mul _ _
  have further : (drift long short count + 1) * long = drift long short count * long + long :=
    Nat.succ_mul _ _
  split
  · exact eq_drift long short (count + 1) _ (by omega) (by omega)
  · exact eq_drift long short (count + 1) _ (by omega) (by omega)

/-! ## Mirrored lines -/

/-- The columns between the ends. -/
def across (start stop : Point) : Nat :=
  (stop.x - start.x).natAbs

/-- The rows between the ends. -/
def along (start stop : Point) : Nat :=
  (stop.y - start.y).natAbs

/-- The length of the longer side. -/
def span (start stop : Point) : Nat :=
  max (across start stop) (along start stop)

/-- The state that a walk begins in. -/
def opening (start stop : Point) : State :=
  ⟨start, (across start stop : Int) - along start stop⟩

/-- Where the walk stands after a number of steps, if nothing ends it before. -/
def place (start stop : Point) (count : Nat) : Point :=
  ((step start stop)^[count] (opening start stop)).here

def flip (point : Point) : Point :=
  ⟨point.y, point.x⟩

def State.flip (state : State) : State :=
  ⟨Line.flip state.here, -state.error⟩

theorem step_flip (start stop : Point) (state : State) :
    step (flip start) (flip stop) state.flip = (step start stop state).flip := by
  have columns : (2 * -state.error > -((stop.x - start.x).natAbs : Int)) ↔
      2 * state.error < (stop.x - start.x).natAbs := by omega
  have rows : (2 * -state.error < ((stop.y - start.y).natAbs : Int)) ↔
      2 * state.error > -((stop.y - start.y).natAbs : Int) := by omega
  simp only [step, flip, State.flip, columns, rows, decide_eq_true_eq, State.mk.injEq, true_and]
  split <;> split <;> omega

theorem opening_flip (start stop : Point) :
    opening (flip start) (flip stop) = (opening start stop).flip := by
  simp only [opening, State.flip, across, along, flip, State.mk.injEq, true_and]
  omega

/-- Exchanging the coordinates of the ends exchanges those of every place of the walk. -/
theorem place_flip (start stop : Point) (count : Nat) :
    place (flip start) (flip stop) count = flip (place start stop count) := by
  have mirrored : Function.Semiconj State.flip (step start stop) (step (flip start) (flip stop)) :=
    fun state => (step_flip start stop state).symm
  have walked := mirrored.iterate_right count (opening start stop)
  rw [← opening_flip] at walked
  rw [place, ← walked]
  rfl

/-! ## The walk -/

/-- The state at a place of a line, with its error. -/
def stateAt (start stop : Point) (right down : Nat) : State :=
  ⟨⟨start.x + side start.x stop.x * right, start.y + side start.y stop.y * down⟩,
    across start stop - along start stop - (right * along start stop : Nat) +
      (down * across start stop : Nat)⟩

theorem goes_on (start stop : Point) (wide : along start stop ≤ across start stop) (count : Nat)
    (before : count < across start stop) :
    -(along start stop : Int) <
      2 * (stateAt start stop count (drift (across start stop) (along start stop) count)).error := by
  have positive := Nat.zero_lt_of_lt before
  have bounds := drift_bounds _ (along start stop) count positive
  simp only [stateAt]
  rcases Nat.lt_or_eq_of_le wide with wider | square
  · omega
  · -- On a diagonal the bounds alone leave the error half a side away.
    have diagonal := drift_diagonal _ count positive
    rw [square, diagonal]
    omega

theorem step_wide (start stop : Point) (wide : along start stop ≤ across start stop) (count : Nat)
    (before : count < across start stop) :
    step start stop
        (stateAt start stop count (drift (across start stop) (along start stop) count)) =
      stateAt start stop (count + 1)
        (drift (across start stop) (along start stop) (count + 1)) := by
  have moves := goes_on start stop wide count before
  have succ := drift_succ _ _ count (Nat.zero_lt_of_lt before) wide
  generalize drift (across start stop) (along start stop) count = here at moves succ ⊢
  have rises : 2 * (stateAt start stop count here).error < (across start stop : Int) ↔
      2 * (here * across start stop) + across start stop <
        2 * (count * along start stop) + 2 * along start stop := by
    simp only [stateAt]
    omega
  rw [succ]
  unfold step
  rw [← across, ← along]
  simp only [gt_iff_lt, moves, decide_true, decide_eq_true_eq, if_true]
  by_cases nearer : 2 * (stateAt start stop count here).error < (across start stop : Int)
  · rw [if_pos nearer, if_pos nearer, if_pos (rises.mp nearer)]
    simp only [stateAt, State.mk.injEq, Point.mk.injEq]
    push_cast
    exact ⟨⟨by ring, by ring⟩, by ring⟩
  · rw [if_neg nearer, if_neg nearer, if_neg (fun risen => nearer (rises.mpr risen))]
    simp only [stateAt, State.mk.injEq, Point.mk.injEq]
    push_cast
    exact ⟨⟨by ring, trivial⟩, by ring⟩

theorem iterate_wide (start stop : Point) (wide : along start stop ≤ across start stop)
    (count : Nat) (within : count ≤ across start stop) :
    (step start stop)^[count] (opening start stop) =
      stateAt start stop count (drift (across start stop) (along start stop) count) := by
  induction count with
  | zero => simp [opening, stateAt]
  | succ count ih =>
      rw [Function.iterate_succ_apply', ih (by omega)]
      exact step_wide start stop wide count within

theorem place_wide (start stop : Point) (wide : along start stop ≤ across start stop)
    (count : Nat) (within : count ≤ across start stop) :
    place start stop count =
      ⟨start.x + side start.x stop.x * count,
        start.y + side start.y stop.y * drift (across start stop) (along start stop) count⟩ := by
  rw [place, iterate_wide start stop wide count within]
  rfl

theorem place_high (start stop : Point) (high : across start stop ≤ along start stop)
    (count : Nat) (within : count ≤ along start stop) :
    place start stop count =
      ⟨start.x + side start.x stop.x * drift (along start stop) (across start stop) count,
        start.y + side start.y stop.y * count⟩ := by
  have mirrored := place_wide (flip start) (flip stop) high count within
  rw [place_flip] at mirrored
  exact congrArg flip mirrored

/-! ## What a line is -/

/-- Two pixels of a line touch; the second is one on along the longer side. -/
def Touches (start stop one next : Point) : Prop :=
  ((next.x - one.x).natAbs ≤ 1 ∧ (next.y - one.y).natAbs ≤ 1) ∧
    (along start stop ≤ across start stop → (next.x - one.x).natAbs = 1) ∧
      (across start stop ≤ along start stop → (next.y - one.y).natAbs = 1)

/-- The point lies in the box that the ends span. -/
def Boxed (start stop point : Point) : Prop :=
  (min start.x stop.x ≤ point.x ∧ point.x ≤ max start.x stop.x) ∧
    min start.y stop.y ≤ point.y ∧ point.y ≤ max start.y stop.y

/-- The row of the ideal segment in a column, for a segment that is not upright. -/
def idealRow (start stop : Point) (column : Int) : ℚ :=
  start.y + (column - start.x) * ((stop.y - start.y) / (stop.x - start.x))

/-- The point lies within half a pixel of the ideal segment, along the shorter side. -/
def Near (start stop point : Point) : Prop :=
  (along start stop ≤ across start stop → |point.y - idealRow start stop point.x| ≤ 1 / 2) ∧
    (across start stop ≤ along start stop →
      |point.x - idealRow (flip start) (flip stop) point.y| ≤ 1 / 2)

/-- The pixels are those of a line from one end to the other. -/
structure Exact (start stop : Point) (pixels : List Point) : Prop where
  length : pixels.length = span start stop + 1
  distinct : pixels.Nodup
  first : pixels.head? = some start
  last : pixels.getLast? = some stop
  touching : pixels.IsChain (Touches start stop)
  boxed : ∀ pixel ∈ pixels, Boxed start stop pixel
  near : ∀ pixel ∈ pixels, Near start stop pixel

/-! ## Every place of the walk -/

theorem stop_eq (start stop : Point) :
    stop.x = start.x + side start.x stop.x * across start stop ∧
      stop.y = start.y + side start.y stop.y * along start stop := by
  unfold side across along
  constructor <;> split <;> omega

theorem abs_side (start stop : Int) : |(side start stop : ℚ)| = 1 := by
  unfold side
  split <;> simp

theorem natAbs_side (start stop : Int) (one next : Nat) :
    (start + side start stop * next - (start + side start stop * one)).natAbs =
      ((next : Int) - one).natAbs := by
  unfold side
  split <;> omega

theorem between_side (start stop : Int) (count : Nat) (within : count ≤ (stop - start).natAbs) :
    min start stop ≤ start + side start stop * count ∧
      start + side start stop * count ≤ max start stop := by
  unfold side
  split <;> omega

section

variable (start stop : Point)

theorem place_zero : place start stop 0 = start := rfl

theorem place_span : place start stop (span start stop) = stop := by
  obtain ⟨columns, rows⟩ := stop_eq start stop
  rcases le_total (along start stop) (across start stop) with wide | high
  · rw [span, max_eq_left wide, place_wide start stop wide _ le_rfl, drift_end _ _ wide, ← columns,
      ← rows]
  · rw [span, max_eq_right high, place_high start stop high _ le_rfl, drift_end _ _ high, ← columns,
      ← rows]

theorem steps_apart (one other : Nat) (first : one ≤ span start stop)
    (second : other ≤ span start stop) :
    (along start stop ≤ across start stop →
      ((place start stop other).x - (place start stop one).x).natAbs =
        ((other : Int) - one).natAbs) ∧
      (across start stop ≤ along start stop →
        ((place start stop other).y - (place start stop one).y).natAbs =
          ((other : Int) - one).natAbs) := by
  constructor
  · intro wide
    rw [span, max_eq_left wide] at first second
    rw [place_wide start stop wide one first, place_wide start stop wide other second]
    exact natAbs_side start.x stop.x one other
  · intro high
    rw [span, max_eq_right high] at first second
    rw [place_high start stop high one first, place_high start stop high other second]
    exact natAbs_side start.y stop.y one other

theorem place_injective (one other : Nat) (first : one ≤ span start stop)
    (second : other ≤ span start stop) (same : place start stop one = place start stop other) :
    one = other := by
  obtain ⟨columns, rows⟩ := steps_apart start stop one other first second
  rw [same] at columns rows
  rcases le_total (along start stop) (across start stop) with wide | high
  · have apart := columns wide
    omega
  · have apart := rows high
    omega

theorem drift_rises (long short count : Nat) (before : count < long) (shorter : short ≤ long) :
    ((drift long short (count + 1) : Int) - drift long short count).natAbs ≤ 1 := by
  have succ := drift_succ long short count (Nat.zero_lt_of_lt before) shorter
  split at succ <;> omega

theorem touches (count : Nat) (before : count < span start stop) :
    Touches start stop (place start stop count) (place start stop (count + 1)) := by
  obtain ⟨columns, rows⟩ := steps_apart start stop count (count + 1) before.le before
  have one : (((count + 1 : Nat) : Int) - count).natAbs = 1 := by omega
  rw [one] at columns rows
  refine ⟨?_, columns, rows⟩
  rcases le_total (along start stop) (across start stop) with wide | high
  · refine ⟨(columns wide).le, ?_⟩
    rw [span, max_eq_left wide] at before
    rw [place_wide start stop wide (count + 1) before, place_wide start stop wide count before.le]
    exact (natAbs_side _ _ _ _).trans_le (drift_rises _ _ count before wide)
  · refine ⟨?_, (rows high).le⟩
    rw [span, max_eq_right high] at before
    rw [place_high start stop high (count + 1) before, place_high start stop high count before.le]
    exact (natAbs_side _ _ _ _).trans_le (drift_rises _ _ count before high)

theorem drift_le (long short count : Nat) (within : count ≤ long) (shorter : short ≤ long) :
    drift long short count ≤ short := by
  have products := Nat.mul_le_mul_right short within
  calc drift long short count ≤ drift long short long := Nat.div_le_div_right (by omega)
    _ = short := drift_end long short shorter

theorem boxed (count : Nat) (within : count ≤ span start stop) :
    Boxed start stop (place start stop count) := by
  rcases le_total (along start stop) (across start stop) with wide | high
  · rw [span, max_eq_left wide] at within
    rw [place_wide start stop wide count within]
    exact ⟨between_side _ _ count within, between_side _ _ _ (drift_le _ _ count within wide)⟩
  · rw [span, max_eq_right high] at within
    rw [place_high start stop high count within]
    exact ⟨between_side _ _ _ (drift_le _ _ count within high), between_side _ _ count within⟩

theorem drift_near (long short count : Nat) (positive : 0 < long) :
    |(drift long short count : ℚ) - count * (short / long)| ≤ 1 / 2 := by
  obtain ⟨above, below⟩ := drift_bounds long short count positive
  generalize drift long short count = height at above below ⊢
  have long_pos : (0 : ℚ) < long := Nat.cast_pos.mpr positive
  have high : (2 * (height * long) + 1 : ℚ) ≤ 2 * (count * short) + long := by exact_mod_cast above
  have low : (2 * (count * short) : ℚ) ≤ 2 * (height * long) + long := by exact_mod_cast below
  have scaled : (height : ℚ) - count * (short / long) = (height * long - count * short) / long := by
    field_simp
  rw [scaled, abs_le, le_div_iff₀ long_pos, div_le_iff₀ long_pos]
  constructor <;> linarith

theorem idealRow_column (count : Nat) :
    idealRow start stop (start.x + side start.x stop.x * count) =
      start.y + side start.y stop.y * (count * (along start stop / across start stop)) := by
  obtain ⟨columns, rows⟩ := stop_eq start stop
  have width : (stop.x - start.x : ℚ) = side start.x stop.x * across start stop := by
    rw [sub_eq_iff_eq_add']
    exact_mod_cast columns
  have height : (stop.y - start.y : ℚ) = side start.y stop.y * along start stop := by
    rw [sub_eq_iff_eq_add']
    exact_mod_cast rows
  have side_ne : (side start.x stop.x : ℚ) ≠ 0 := abs_pos.mp (abs_side _ _ ▸ one_pos)
  rw [idealRow, width, height]
  push_cast
  congr 1
  calc (start.x + side start.x stop.x * count - start.x : ℚ) *
        (side start.y stop.y * along start stop / (side start.x stop.x * across start stop))
      = side start.x stop.x * (count * (side start.y stop.y * along start stop)) /
          (side start.x stop.x * across start stop) := by ring
    _ = count * (side start.y stop.y * along start stop) / across start stop :=
        mul_div_mul_left _ _ side_ne
    _ = side start.y stop.y * (count * (along start stop / across start stop)) := by ring

theorem near_wide (wide : along start stop ≤ across start stop) (count : Nat)
    (within : count ≤ across start stop) :
    |(place start stop count).y - idealRow start stop (place start stop count).x| ≤ 1 / 2 := by
  rw [place_wide start stop wide count within, idealRow_column]
  push_cast
  rw [add_sub_add_left_eq_sub, ← mul_sub, abs_mul, abs_side, one_mul]
  rcases Nat.eq_zero_or_pos (across start stop) with flat | positive
  · obtain rfl : count = 0 := by omega
    simp
  · exact drift_near _ _ count positive

theorem near (count : Nat) (within : count ≤ span start stop) :
    Near start stop (place start stop count) := by
  constructor
  · intro wide
    rw [span, max_eq_left wide] at within
    exact near_wide start stop wide count within
  · intro high
    rw [span, max_eq_right high] at within
    have mirrored := near_wide (flip start) (flip stop) high count within
    rwa [place_flip] at mirrored

end

/-! ## The pixels that are painted -/

/-- The walk ends where it first meets the far end, whatever number of steps it is allowed beyond
those it takes. -/
theorem walk_eq (start stop : Point) (fuel count : Nat) (within : count ≤ span start stop)
    (enough : span start stop - count ≤ fuel) :
    walk start stop fuel ((step start stop)^[count] (opening start stop)) =
      (List.range' count (span start stop + 1 - count)).map (place start stop) := by
  induction fuel generalizing count with
  | zero =>
      obtain rfl : count = span start stop := by omega
      simp [walk, place]
  | succ fuel ih =>
      rw [walk]
      split
      · rename_i arrived
        have last : count = span start stop :=
          place_injective start stop count _ within le_rfl (arrived.trans (place_span start stop).symm)
        simp [last, place]
      · rename_i apart
        have before : count < span start stop := by
          refine Nat.lt_of_le_of_ne within fun last => apart ?_
          rw [last]
          exact place_span start stop
        have pixels : span start stop + 1 - count = (span start stop + 1 - (count + 1)) + 1 := by omega
        have rest := ih (count + 1) before (by omega)
        rw [Function.iterate_succ_apply'] at rest
        rw [rest, pixels, List.range'_succ, List.map_cons]
        rfl

/-- The loop ends after this number of steps: the walk meets the far end then and not before. -/
def EndsAfter (start stop : Point) (count : Nat) : Prop :=
  place start stop count = stop ∧ ∀ earlier < count, place start stop earlier ≠ stop

theorem endsAfter_span (start stop : Point) : EndsAfter start stop (span start stop) := by
  refine ⟨place_span start stop, fun earlier before met => ?_⟩
  have last := place_injective start stop earlier _ before.le le_rfl
    (met.trans (place_span start stop).symm)
  omega

theorem points_eq (start stop : Point) :
    points start stop = (List.range (span start stop + 1)).map (place start stop) := by
  have enough : span start stop - 0 ≤ across start stop + along start stop := by
    rw [span]
    omega
  rw [List.range_eq_range']
  exact walk_eq start stop _ 0 (Nat.zero_le _) enough

theorem exact_points (start stop : Point) : Exact start stop (points start stop) := by
  rw [points_eq]
  constructor
  case length => simp
  case distinct =>
    refine List.Nodup.map_on (fun one first other second same => ?_) List.nodup_range
    exact place_injective start stop one other (Nat.lt_succ_iff.mp (List.mem_range.mp first))
      (Nat.lt_succ_iff.mp (List.mem_range.mp second)) same
  case first => simp [List.range_succ_eq_map, place_zero]
  case last => simp [List.range_succ, place_span]
  case touching =>
    rw [List.isChain_map, List.isChain_range_succ]
    exact fun count before => touches start stop count before
  case boxed =>
    intro pixel member
    obtain ⟨count, within, rfl⟩ := List.mem_map.mp member
    exact boxed start stop count (Nat.lt_succ_iff.mp (List.mem_range.mp within))
  case near =>
    intro pixel member
    obtain ⟨count, within, rfl⟩ := List.mem_map.mp member
    exact near start stop count (Nat.lt_succ_iff.mp (List.mem_range.mp within))

theorem holds_of_boxed (width height : Nat) (start stop point : Point)
    (startHeld : Canvas.holds width height start = true)
    (stopHeld : Canvas.holds width height stop = true) (inside : Boxed start stop point) :
    Canvas.holds width height point = true := by
  rw [Canvas.holds_iff] at startHeld stopHeld ⊢
  unfold Boxed at inside
  omega

/-- Between any two points of a canvas the loop ends by itself, and what it paints is an exact line:
one pixel for every step along the longer side, from end to end, none of them clipped, and nothing
else on the canvas changes. -/
theorem line_drawn (canvas : Canvas) (color : Color) (start stop : Point)
    (startHeld : Canvas.holds canvas.width canvas.height start = true)
    (stopHeld : Canvas.holds canvas.width canvas.height stop = true) :
    EndsAfter start stop (span start stop) ∧
      points start stop = (List.range (span start stop + 1)).map (place start stop) ∧
      Exact start stop (points start stop) ∧
      (∀ pixel ∈ points start stop, Canvas.holds canvas.width canvas.height pixel = true) ∧
      (canvas.Whole → ∀ x y : Nat, (canvas.paintAll color (points start stop)).at? x y =
        if (⟨x, y⟩ : Point) ∈ points start stop then some color else canvas.at? x y) := by
  have exact := exact_points start stop
  have held : ∀ pixel ∈ points start stop,
      Canvas.holds canvas.width canvas.height pixel = true := fun pixel member =>
    holds_of_boxed _ _ start stop pixel startHeld stopHeld (exact.boxed pixel member)
  refine ⟨endsAfter_span start stop, points_eq start stop, exact, held, fun whole x y => ?_⟩
  rw [Canvas.at?_paintAll color canvas whole]
  by_cases painted : (⟨x, y⟩ : Point) ∈ points start stop
  · rw [if_pos ⟨painted, held _ painted⟩, if_pos painted]
  · rw [if_neg (fun both => painted both.1), if_neg painted]

theorem line_drawn_steep :
    Canvas.holds 3 6 ⟨2, 5⟩ = true ∧ Canvas.holds 3 6 ⟨0, 0⟩ = true ∧
      EndsAfter ⟨2, 5⟩ ⟨0, 0⟩ 5 ∧
      Exact ⟨2, 5⟩ ⟨0, 0⟩ [⟨2, 5⟩, ⟨2, 4⟩, ⟨1, 3⟩, ⟨1, 2⟩, ⟨0, 1⟩, ⟨0, 0⟩] ∧
      ((Canvas.blank 3 6).paintAll ⟨0, 0, 0, 255⟩ (points ⟨2, 5⟩ ⟨0, 0⟩)).at? 1 3 =
        some ⟨0, 0, 0, 255⟩ := by
  obtain ⟨ends, -, exact, -, painted⟩ :=
    line_drawn (Canvas.blank 3 6) ⟨0, 0, 0, 255⟩ ⟨2, 5⟩ ⟨0, 0⟩ rfl rfl
  exact ⟨rfl, rfl, ends, exact, painted (Canvas.whole_blank 3 6) 1 3⟩

end Gatehouse.Captcha.Line

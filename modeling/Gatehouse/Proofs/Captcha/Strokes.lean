import Gatehouse.Captcha.Picture
import Gatehouse.Proofs.Captcha.Lines
import Gatehouse.Proofs.Random

/-!
# Pictures in strokes

A picture is a row of strokes on a blank canvas: lines, then dots, then a stroke
for every character that has a bitmap.  Lines and dots lie within the canvas,
whatever is drawn for them; characters are clipped to it.
-/

set_option autoImplicit false

namespace Gatehouse.Captcha

/-- Points that are painted in one colour. -/
structure Stroke where
  color : Color
  points : List Point
  deriving DecidableEq, Repr

namespace Canvas

def strike (canvas : Canvas) (stroke : Stroke) : Canvas :=
  canvas.paintAll stroke.color stroke.points

def strikeAll (canvas : Canvas) (strokes : List Stroke) : Canvas :=
  strokes.foldl strike canvas

section

variable (canvas : Canvas)

theorem paintAll_keeps (color : Color) (points : List Point) :
    (canvas.paintAll color points).width = canvas.width ∧
      (canvas.paintAll color points).height = canvas.height ∧
      (canvas.Whole → (canvas.paintAll color points).Whole) := by
  induction points generalizing canvas with
  | nil => exact ⟨rfl, rfl, fun whole => whole⟩
  | cons point rest ih =>
      obtain ⟨width, height, whole⟩ := ih (canvas.paint color point)
      exact ⟨width.trans (width_paint color canvas point),
        height.trans (height_paint color canvas point),
        fun before => whole (whole_paint color canvas point before)⟩

theorem width_strikeAll (strokes : List Stroke) :
    (canvas.strikeAll strokes).width = canvas.width := by
  induction strokes generalizing canvas with
  | nil => rfl
  | cons stroke rest ih =>
      exact (ih (canvas.strike stroke)).trans (canvas.paintAll_keeps _ _).1

theorem height_strikeAll (strokes : List Stroke) :
    (canvas.strikeAll strokes).height = canvas.height := by
  induction strokes generalizing canvas with
  | nil => rfl
  | cons stroke rest ih =>
      exact (ih (canvas.strike stroke)).trans (canvas.paintAll_keeps _ _).2.1

theorem whole_strikeAll (strokes : List Stroke) (whole : canvas.Whole) :
    (canvas.strikeAll strokes).Whole := by
  induction strokes generalizing canvas with
  | nil => exact whole
  | cons stroke rest ih =>
      exact ih (canvas.strike stroke) ((canvas.paintAll_keeps _ _).2.2 whole)

theorem strikeAll_append (first second : List Stroke) :
    canvas.strikeAll (first ++ second) = (canvas.strikeAll first).strikeAll second :=
  List.foldl_append

theorem paintAll_filter (color : Color) (points : List Point) :
    canvas.paintAll color (points.filter (holds canvas.width canvas.height)) =
      canvas.paintAll color points := by
  induction points generalizing canvas with
  | nil => rfl
  | cons point rest ih =>
      have tail := ih (canvas.paint color point)
      rw [width_paint, height_paint] at tail
      rw [List.filter_cons]
      by_cases held : holds canvas.width canvas.height point = true
      · rw [if_pos held]
        exact tail
      · rw [if_neg held]
        have skipped : canvas.paint color point = canvas := by rw [paint, if_neg held]
        rw [skipped] at tail
        rw [tail, paintAll, paintAll, List.foldl_cons, skipped]

end

end Canvas

namespace Stroke

variable (width height : Nat) (stroke : Stroke)

/-- Every point lies on a canvas of this size. -/
def Within : Prop :=
  ∀ point ∈ stroke.points, Canvas.holds width height point = true

/-- What is left of a stroke on a canvas of this size. -/
def clip : Stroke :=
  ⟨stroke.color, stroke.points.filter (Canvas.holds width height)⟩

theorem within_clip : (stroke.clip width height).Within width height := by
  intro point member
  exact (List.mem_filter.mp member).2

theorem strikeAll_clip (canvas : Canvas) (strokes : List Stroke) :
    canvas.strikeAll (strokes.map (clip canvas.width canvas.height)) = canvas.strikeAll strokes := by
  induction strokes generalizing canvas with
  | nil => rfl
  | cons stroke rest ih =>
      have tail := ih (canvas.strike stroke)
      obtain ⟨wide, high, -⟩ := canvas.paintAll_keeps stroke.color stroke.points
      rw [Canvas.strike, wide, high] at tail
      rw [List.map_cons, Canvas.strikeAll, List.foldl_cons, Canvas.strike, clip,
        Canvas.paintAll_filter]
      exact tail

/-- A line between two points of a canvas of this size. -/
def IsLine : Prop :=
  ∃ start stop, Canvas.holds width height start = true ∧ Canvas.holds width height stop = true ∧
    stroke.points = Line.points start stop

/-- A single point of a canvas of this size. -/
def IsDot : Prop :=
  ∃ point, Canvas.holds width height point = true ∧ stroke.points = [point]

variable {width height stroke}

theorem IsLine.within (line : stroke.IsLine width height) : stroke.Within width height := by
  obtain ⟨start, stop, startHeld, stopHeld, same⟩ := line
  intro point member
  rw [same] at member
  exact Line.holds_of_boxed width height start stop point startHeld stopHeld
    ((Line.exact_points start stop).boxed point member)

theorem IsDot.within (dot : stroke.IsDot width height) : stroke.Within width height := by
  obtain ⟨point, held, same⟩ := dot
  intro other member
  rw [same, List.mem_singleton] at member
  rwa [member]

end Stroke

/-! ## Noise -/

section

variable (words : Words) (position : Nat)

theorem coordinate_bounds (size : Nat) (positive : 0 < size) :
    0 ≤ ((coordinate size).run words position).1 ∧
      ((coordinate size).run words position).1 < size := by
  have below := Draw.below_lt 32 size (by decide) positive words position
  have same : ((coordinate size).run words position).1 =
      ((Draw.below 32 size).run words position).1 := rfl
  omega

theorem holds_coordinates (width height across down : Nat) (wide : 0 < width) (high : 0 < height) :
    Canvas.holds width height ⟨((coordinate width).run words across).1,
      ((coordinate height).run words down).1⟩ = true :=
  (Canvas.holds_iff _ _ _).mpr
    ⟨coordinate_bounds words across width wide, coordinate_bounds words down height high⟩

variable (canvas : Canvas) (wide : 0 < canvas.width) (high : 0 < canvas.height)

include wide high

theorem drawLine_stroke : ∃ stroke : Stroke, stroke.IsLine canvas.width canvas.height ∧
    ((drawLine canvas).run words position).1 = canvas.strike stroke := by
  unfold drawLine
  simp only [Draw.run_bind]
  exact ⟨⟨_, Line.points ⟨_, _⟩ ⟨_, _⟩⟩,
    ⟨_, _, holds_coordinates words _ _ _ _ wide high, holds_coordinates words _ _ _ _ wide high,
      rfl⟩, rfl⟩

theorem drawDot_stroke : ∃ stroke : Stroke, stroke.IsDot canvas.width canvas.height ∧
    ((drawDot canvas).run words position).1 = canvas.strike stroke := by
  unfold drawDot
  simp only [Draw.run_bind]
  exact ⟨⟨_, [⟨_, _⟩]⟩, ⟨_, holds_coordinates words _ _ _ _ wide high, rfl⟩, rfl⟩

end

theorem repeated_strokes (draw : Canvas → Draw Canvas) (kind : Nat → Nat → Stroke → Prop)
    (one : ∀ canvas : Canvas, 0 < canvas.width → 0 < canvas.height → ∀ words position,
      ∃ stroke, kind canvas.width canvas.height stroke ∧
        ((draw canvas).run words position).1 = canvas.strike stroke)
    (count : Nat) (canvas : Canvas) (wide : 0 < canvas.width) (high : 0 < canvas.height)
    (words : Words) (position : Nat) :
    ∃ strokes : List Stroke, strokes.length = count ∧
      (∀ stroke ∈ strokes, kind canvas.width canvas.height stroke) ∧
      ((repeated draw count canvas).run words position).1 = canvas.strikeAll strokes := by
  induction count generalizing canvas position with
  | zero => exact ⟨[], rfl, by simp, rfl⟩
  | succ count ih =>
      obtain ⟨stroke, isKind, struck⟩ := one canvas wide high words position
      obtain ⟨sameWidth, sameHeight, -⟩ := canvas.paintAll_keeps stroke.color stroke.points
      have tail := ih (canvas.strike stroke) (sameWidth ▸ wide) (sameHeight ▸ high)
        ((draw canvas).run words position).2
      rw [Canvas.strike, sameWidth, sameHeight, ← Canvas.strike] at tail
      obtain ⟨strokes, length, kinds, drawn⟩ := tail
      refine ⟨stroke :: strokes, congrArg (· + 1) length, ?_, ?_⟩
      · rintro other (_ | ⟨_, member⟩)
        · exact isKind
        · exact kinds other member
      · rw [repeated, Draw.run_bind, struck]
        exact drawn

/-! ## Characters -/

def Placed.stroke (scale : Nat) (placed : Placed) : Stroke :=
  ⟨placed.color, placed.points scale⟩

theorem drawText_strokes (text : List Char) (canvas : Canvas) (words : Words) (position : Nat) :
    ((drawText text canvas).run words position).1 =
      canvas.strikeAll
        ((((placeAll canvas.width canvas.height text.length 0 text).run words position).1).map
          (Placed.stroke (scaleOf canvas.width text.length))) := by
  rw [drawText, Draw.run_bind, Canvas.strikeAll, List.foldl_map]
  rfl

/-- Every picture of a size that is not empty is drawn: so many lines and so many dots within the
canvas, and the characters on top of them. -/
theorem picture_strokes (text : String) (width height : Nat) (wide : 0 < width)
    (high : 0 < height) :
    ∃ draw, picture text width height = .ok draw ∧ ∀ words position,
      ∃ (lines dots : List Stroke) (start : Nat),
        lines.length = noiseLines ∧ (∀ stroke ∈ lines, stroke.IsLine width height) ∧
        dots.length = noiseDots ∧ (∀ stroke ∈ dots, stroke.IsDot width height) ∧
        (draw.run words position).1 =
          ((Canvas.blank width height).strikeAll (lines ++ dots)).strikeAll
            (((placeAll width height text.toList.length 0 text.toList).run words start).1.map
              (Placed.stroke (scaleOf width text.toList.length))) := by
  have sized : ¬(width = 0 ∨ height = 0) := by omega
  refine ⟨_, by rw [picture, if_neg sized], fun words position => ?_⟩
  obtain ⟨lines, lineCount, straight, drawnLines⟩ := repeated_strokes drawLine Stroke.IsLine
    (fun canvas wide high words position => drawLine_stroke words position canvas wide high)
    noiseLines (Canvas.blank width height) wide high words position
  let lined := (Canvas.blank width height).strikeAll lines
  let between := ((repeated drawLine noiseLines (Canvas.blank width height)).run words position).2
  have lineWidth : lined.width = width := Canvas.width_strikeAll _ lines
  have lineHeight : lined.height = height := Canvas.height_strikeAll _ lines
  obtain ⟨dots, dotCount, single, drawnDots⟩ := repeated_strokes drawDot Stroke.IsDot
    (fun canvas wide high words position => drawDot_stroke words position canvas wide high)
    noiseDots lined (by rwa [lineWidth]) (by rwa [lineHeight]) words between
  rw [lineWidth, lineHeight] at single
  refine ⟨lines, dots, ((repeated drawDot noiseDots lined).run words between).2, lineCount,
    straight, dotCount, single, ?_⟩
  rw [Draw.run_bind, drawnLines, Draw.run_bind, drawnDots, drawText_strokes,
    Canvas.strikeAll_append, Canvas.width_strikeAll, Canvas.height_strikeAll, lineWidth, lineHeight]

end Gatehouse.Captcha

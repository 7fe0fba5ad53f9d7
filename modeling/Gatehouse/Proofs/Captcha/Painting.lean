import Mathlib.Data.Nat.Basic
import Gatehouse.Captcha.Canvas

/-!
# Painted canvases

What painting points does to every pixel of a canvas: those painted take the colour, all others
stay as they are.  Points outside the canvas are left out.
-/

set_option autoImplicit false

namespace Gatehouse.Captcha.Canvas

/-- The canvas has one pixel for every place in it. -/
def Whole (canvas : Canvas) : Prop :=
  canvas.pixels.size = canvas.width * canvas.height

theorem whole_blank (width height : Nat) : (blank width height).Whole :=
  Array.size_replicate

theorem holds_iff (width height : Nat) (point : Point) :
    holds width height point = true ↔
      (0 ≤ point.x ∧ point.x < width) ∧ 0 ≤ point.y ∧ point.y < height := by
  simp only [holds, Bool.and_eq_true, decide_eq_true_eq, and_assoc]

section

variable (color : Color) (canvas : Canvas) (point : Point)

theorem width_paint : (canvas.paint color point).width = canvas.width := by
  unfold paint
  split <;> rfl

theorem height_paint : (canvas.paint color point).height = canvas.height := by
  unfold paint
  split <;> rfl

theorem whole_paint (whole : canvas.Whole) : (canvas.paint color point).Whole := by
  unfold paint
  split
  · simpa only [Whole, Array.size_setIfInBounds] using whole
  · exact whole

/-- Two places of a canvas are kept in one cell only if they are the same place. -/
theorem cell_injective (width x y x' y' : Nat) (inside : x < width) (also : x' < width)
    (same : y * width + x = y' * width + x') : x = x' ∧ y = y' := by
  have rows : y = y' := by
    have quotients := congrArg (· / width) same
    simpa only [Nat.mul_comm _ width, Nat.mul_add_div (Nat.zero_lt_of_lt inside),
      Nat.div_eq_of_lt inside, Nat.div_eq_of_lt also, Nat.add_zero] using quotients
  subst rows
  exact ⟨Nat.add_left_cancel same, rfl⟩

theorem cell_lt (width height x y : Nat) (inside : x < width) (below : y < height) :
    y * width + x < width * height := by
  calc y * width + x < y * width + width := Nat.add_lt_add_left inside _
    _ = width * (y + 1) := by rw [Nat.mul_succ, Nat.mul_comm]
    _ ≤ width * height := Nat.mul_le_mul_left width below

theorem at?_paint (whole : canvas.Whole) (x y : Nat) :
    (canvas.paint color point).at? x y =
      if point = ⟨x, y⟩ ∧ holds canvas.width canvas.height point = true then some color
      else canvas.at? x y := by
  by_cases held : holds canvas.width canvas.height point = true
  · simp only [paint, held, if_true, and_true, at?]
    obtain ⟨⟨left, right⟩, top, bottom⟩ := (holds_iff _ _ _).mp held
    by_cases inside : x < canvas.width ∧ y < canvas.height
    · rw [if_pos inside, if_pos inside, Array.getElem?_setIfInBounds]
      have below := cell_lt canvas.width canvas.height x y inside.1 inside.2
      by_cases here : point = ⟨x, y⟩
      · subst here
        simp only [Int.toNat_natCast, if_true]
        rw [if_pos]
        rw [whole]
        exact below
      · have apart : point.y.toNat * canvas.width + point.x.toNat ≠ y * canvas.width + x := by
          intro same
          have places := cell_injective canvas.width _ _ _ _ (by omega) inside.1 same
          apply here
          obtain ⟨px, py⟩ := point
          simp only [Point.mk.injEq]
          simp only at left top places
          omega
        rw [if_neg apart, if_neg here]
    · rw [if_neg inside, if_neg inside, if_neg]
      rintro rfl
      exact inside ⟨by simpa using right, by simpa using bottom⟩
  · rw [paint, if_neg held, if_neg (fun both => held both.2)]

end

variable (color : Color)

theorem at?_paintAll (canvas : Canvas) (whole : canvas.Whole) (points : List Point) (x y : Nat) :
    (canvas.paintAll color points).at? x y =
      if (⟨x, y⟩ : Point) ∈ points ∧ holds canvas.width canvas.height ⟨x, y⟩ = true then
        some color
      else canvas.at? x y := by
  induction points generalizing canvas with
  | nil => simp [paintAll]
  | cons point points ih =>
      have painted := ih (canvas.paint color point) (whole_paint color canvas point whole)
      rw [width_paint, height_paint, at?_paint color canvas point whole] at painted
      rw [paintAll, List.foldl_cons, ← paintAll, painted]
      simp only [List.mem_cons]
      by_cases later : (⟨x, y⟩ : Point) ∈ points ∧ holds canvas.width canvas.height ⟨x, y⟩ = true
      · rw [if_pos later, if_pos ⟨Or.inr later.1, later.2⟩]
      · rw [if_neg later]
        by_cases here : point = ⟨x, y⟩
        · subst here
          by_cases held : holds canvas.width canvas.height ⟨x, y⟩ = true
          · rw [if_pos ⟨rfl, held⟩, if_pos ⟨Or.inl rfl, held⟩]
          · rw [if_neg (fun both => held both.2), if_neg (fun both => held both.2)]
        · rw [if_neg (fun both => here both.1), if_neg]
          rintro ⟨found | found, held⟩
          · exact here found.symm
          · exact later ⟨found, held⟩

end Gatehouse.Captcha.Canvas

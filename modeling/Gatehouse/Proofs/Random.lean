import Mathlib.Algebra.Group.Nat.Defs
import Gatehouse.Random

/-!
# What is drawn

Bounds of random draws, for every stream of words.
-/

set_option autoImplicit false

namespace Gatehouse.Draw

theorem run_bind {α β : Type} (draw : Draw α) (next : α → Draw β) (words : Words) (position : Nat) :
    (draw >>= next).run words position =
      (next (draw.run words position).1).run words (draw.run words position).2 := rfl

theorem bits_lt (count : Nat) (narrow : count ≤ 64) (words : Words) (position : Nat) :
    ((bits count).run words position).1 < 2 ^ count := by
  have whole : (words position).toNat < 2 ^ 64 := (words position).toNat_lt
  have split : 2 ^ 64 = 2 ^ (64 - count) * 2 ^ count := by
    rw [← Nat.pow_add]
    congr 1
    omega
  rw [split] at whole
  exact Nat.div_lt_of_lt_mul whole

theorem high_lt (limit first count : Nat) (small : first < limit) (positive : 0 < count) :
    first * count / limit < count := by
  apply Nat.div_lt_of_lt_mul
  exact Nat.mul_lt_mul_of_pos_right small positive

/-- Where the low part leaves room for a carry, the high part is not the last one. -/
theorem high_succ_lt (limit first count : Nat) (small : first < limit) (positive : 0 < count)
    (room : first * count % limit > limit - count) : first * count / limit + 1 < count := by
  have high := high_lt limit first count small positive
  have parts := Nat.div_add_mod (first * count) limit
  have most : (first + 1) * count ≤ limit * count := Nat.mul_le_mul_right count small
  rw [Nat.add_mul, Nat.one_mul] at most
  refine Nat.lt_of_not_le fun last => ?_
  have whole : count = first * count / limit + 1 := by omega
  have product : limit * count = limit * (first * count / limit) + limit := by
    rw [← Nat.mul_succ, Nat.succ_eq_add_one, ← whole]
  omega

theorem below_lt (width count : Nat) (narrow : width ≤ 64) (positive : 0 < count) (words : Words)
    (position : Nat) : ((below width count).run words position).1 < count := by
  have small := bits_lt width narrow words position
  unfold below
  rw [run_bind]
  generalize ((bits width).run words position).1 = first at small ⊢
  dsimp only
  cases carried : carries width count (first * count % Nat.pow 2 width) with
  | false =>
      simp only [Bool.false_eq_true, if_false]
      exact high_lt (2 ^ width) first count small positive
  | true =>
      have room := of_decide_eq_true carried
      have high := high_succ_lt (2 ^ width) first count small positive room
      simp only [if_true]
      rw [run_bind]
      split
      · exact high
      · exact Nat.lt_of_succ_lt high

theorem between_bounds (width : Nat) (low high : Int) (narrow : width ≤ 64) (ordered : low ≤ high)
    (words : Words) (position : Nat) :
    low ≤ ((between width low high).run words position).1 ∧
      ((between width low high).run words position).1 ≤ high := by
  have small := below_lt width (high - low + 1).toNat narrow (by omega) words position
  unfold between
  rw [run_bind]
  generalize ((below width (high - low + 1).toNat).run words position).1 = offset at small ⊢
  have drawn : ((pure (low + offset) : Draw Int).run words
      ((below width (high - low + 1).toNat).run words position).2).1 = low + offset := rfl
  rw [drawn]
  omega
end Gatehouse.Draw

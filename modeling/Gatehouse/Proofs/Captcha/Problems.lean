import Mathlib.Algebra.Group.Int.Defs
import Gatehouse.Captcha.Problem
import Gatehouse.Proofs.Random
import Gatehouse.Proofs.Text.Decimals

/-!
# Problems and their solutions

A question names its operands and its operation, so it has one solution, and the
problems that are drawn are answered with it.
-/

set_option autoImplicit false

namespace Gatehouse.Captcha.Problem

/-! ## One solution -/

/-- The number solves the problem.  A quotient is the number that gives back the left operand. -/
def SolvedBy (problem : Problem) (value : Int) : Prop :=
  match problem.operation with
  | .add => value = problem.left.toInt + problem.right.toInt
  | .subtract => value = problem.left.toInt - problem.right.toInt
  | .multiply => value = problem.left.toInt * problem.right.toInt
  | .divide => problem.right.toInt ≠ 0 ∧ value * problem.right.toInt = problem.left.toInt

theorem SolvedBy.unique (problem : Problem) (value other : Int) (solved : problem.SolvedBy value)
    (also : problem.SolvedBy other) : value = other := by
  obtain ⟨left, right, operation⟩ := problem
  cases operation with
  | add => exact Eq.trans solved (Eq.symm also)
  | subtract => exact Eq.trans solved (Eq.symm also)
  | multiply => exact Eq.trans solved (Eq.symm also)
  | divide =>
      obtain ⟨nonzero, product⟩ := solved
      obtain ⟨-, same⟩ := also
      exact Int.eq_of_mul_eq_mul_right nonzero (product.trans same.symm)

theorem symbol_injective (one other : Operation) (same : one.symbol = other.symbol) :
    one = other := by
  cases one <;> cases other <;> first | rfl | cases same

theorem blank_not_mem_intChars (value : Int) : ' ' ∉ Json.intChars value := by
  intro member
  have digit : ∀ number : Nat, ' ' ∉ (Nat.repr number).toList := by
    intro number inside
    rw [Nat.toList_repr] at inside
    have digit := Decimal.isDigit_of_mem_toDigits number ' ' inside
    cases digit
  cases value with
  | ofNat magnitude => exact digit magnitude member
  | negSucc magnitude =>
      rcases List.mem_cons.mp member with minus | inside
      · cases minus
      · exact digit (magnitude + 1) inside

theorem intChars_injective (one other : Int) (same : Json.intChars one = Json.intChars other) :
    one = other := by
  have reads := Decimal.value?_intChars one
  rw [same, Decimal.value?_intChars] at reads
  exact (Option.some.inj reads).symm

theorem split_at_blank (front other : List Char) (back rest : List Char) (solid : ' ' ∉ front)
    (also : ' ' ∉ other) (same : front ++ ' ' :: back = other ++ ' ' :: rest) :
    front = other ∧ back = rest := by
  induction front generalizing other with
  | nil =>
      cases other with
      | nil => exact ⟨rfl, (List.cons.inj same).2⟩
      | cons char others =>
          obtain ⟨is, -⟩ := List.cons.inj same
          exact absurd (is ▸ List.mem_cons_self) also
  | cons char chars ih =>
      cases other with
      | nil =>
          obtain ⟨is, -⟩ := List.cons.inj same
          exact absurd (is ▸ List.mem_cons_self) solid
      | cons first others =>
          obtain ⟨rfl, tails⟩ := List.cons.inj same
          obtain ⟨rfl, rests⟩ := ih others (fun member => solid (List.mem_cons_of_mem _ member))
            (fun member => also (List.mem_cons_of_mem _ member)) tails
          exact ⟨rfl, rests⟩

/-- A question is asked by one problem only. -/
theorem question_injective (one other : Problem) (same : one.question = other.question) :
    one = other := by
  have chars : one.questionChars = other.questionChars := by
    have lists := congrArg String.toList same
    simpa only [question, String.toList_ofList] using lists
  unfold questionChars at chars
  obtain ⟨left, chars⟩ := split_at_blank _ _ _ _ (blank_not_mem_intChars _)
    (blank_not_mem_intChars _) chars
  obtain ⟨symbol, chars⟩ := List.cons.inj chars
  obtain ⟨-, chars⟩ := List.cons.inj chars
  obtain ⟨right, -⟩ := split_at_blank _ _ _ _ (blank_not_mem_intChars _)
    (blank_not_mem_intChars _) chars
  have lefts := Int64.toInt_inj.mp (intChars_injective _ _ left)
  have rights := Int64.toInt_inj.mp (intChars_injective _ _ right)
  have operations := symbol_injective _ _ symbol
  cases one
  cases other
  simp only at lefts rights operations
  rw [lefts, rights, operations]

/-! ## What is drawn -/

theorem toInt_ofInts (left right : Int) (operation : Operation)
    (lefts : -2 ^ 63 ≤ left ∧ left < 2 ^ 63) (rights : -2 ^ 63 ≤ right ∧ right < 2 ^ 63) :
    (ofInts left right operation).left.toInt = left ∧
      (ofInts left right operation).right.toInt = right :=
  ⟨Int64.toInt_ofInt_of_le lefts.1 lefts.2, Int64.toInt_ofInt_of_le rights.1 rights.2⟩

/-- The operands are in the range of the operation, in whole numbers. -/
def Suits (operation : Operation) (left right : Int) : Prop :=
  match operation with
  | .add => (1 ≤ left ∧ left ≤ 10) ∧ 1 ≤ right ∧ right ≤ 10
  | .subtract => (5 ≤ left ∧ left ≤ 19) ∧ 1 ≤ right ∧ right ≤ left
  | .multiply => (1 ≤ left ∧ left ≤ 5) ∧ 1 ≤ right ∧ right ≤ 5
  | .divide => (2 ≤ right ∧ right ≤ 5) ∧ ∃ quotient, (1 ≤ quotient ∧ quotient ≤ 5) ∧
      left = quotient * right

theorem Suits.small (operation : Operation) (left right : Int)
    (suits : Suits operation left right) :
    (0 ≤ left ∧ left ≤ 25) ∧ 0 ≤ right ∧ right ≤ 25 := by
  cases operation with
  | add => obtain ⟨lefts, rights⟩ := suits; omega
  | subtract => obtain ⟨lefts, rights⟩ := suits; omega
  | multiply => obtain ⟨lefts, rights⟩ := suits; omega
  | divide =>
      obtain ⟨rights, quotient, quotients, rfl⟩ := suits
      have least : 0 ≤ quotient * right := Int.mul_nonneg (by omega) (by omega)
      have most : quotient * right ≤ 5 * 5 := Int.mul_le_mul (by omega) (by omega) (by omega)
        (by omega)
      omega

theorem run_operand (low high : Int) (ordered : low ≤ high) (words : Words) (position : Nat) :
    low ≤ ((operand low high).run words position).1 ∧
      ((operand low high).run words position).1 ≤ high :=
  Draw.between_bounds 64 low high (by decide) ordered words position

theorem run_generate (words : Words) (position : Nat) :
    ∃ operation left right, (generate.run words position).1 = ofInts left right operation ∧
      Suits operation left right := by
  unfold generate
  rw [Draw.run_bind]
  split
  · exact ⟨.add, _, _, rfl, run_operand 1 10 (by decide) _ _, run_operand 1 10 (by decide) _ _⟩
  · split
    · have lefts := run_operand 5 19 (by decide) words
        ((Draw.between 32 0 3).run words position).2
      exact ⟨.subtract, _, _, rfl, lefts, run_operand 1 _ (by omega) _ _⟩
    · split
      · exact ⟨.multiply, _, _, rfl, run_operand 1 5 (by decide) _ _,
          run_operand 1 5 (by decide) _ _⟩
      · exact ⟨.divide, _, _, rfl, run_operand 2 5 (by decide) _ _, _,
          run_operand 1 5 (by decide) _ _, Int.mul_comm _ _⟩

theorem answer_of_suits (operation : Operation) (left right : Int)
    (suits : Suits operation left right) :
    ∃ answer, (ofInts left right operation).answer = .ok answer ∧
      (ofInts left right operation).SolvedBy answer.toInt := by
  have small := suits.small operation left right
  obtain ⟨lefts, rights⟩ := toInt_ofInts left right operation (by omega) (by omega)
  have fits : ∀ value : Int, -25 ≤ value → value ≤ 625 → value.bmod (2 ^ 64) = value := by
    intro value least most
    exact Int.bmod_eq_of_le (by omega) (by omega)
  generalize is : ofInts left right operation = problem at lefts rights
  have operates : problem.operation = operation := by
    rw [← is]
    rfl
  unfold answer SolvedBy
  rw [operates, lefts, rights]
  cases operation with
  | add =>
      refine ⟨_, rfl, ?_⟩
      rw [Int64.toInt_add, lefts, rights]
      exact fits _ (by omega) (by omega)
  | subtract =>
      refine ⟨_, rfl, ?_⟩
      rw [Int64.toInt_sub, lefts, rights]
      exact fits _ (by omega) (by omega)
  | multiply =>
      refine ⟨_, rfl, ?_⟩
      rw [Int64.toInt_mul, lefts, rights]
      obtain ⟨one, other⟩ := suits
      have least : 0 ≤ left * right := Int.mul_nonneg (by omega) (by omega)
      have most : left * right ≤ 5 * 5 := Int.mul_le_mul (by omega) (by omega) (by omega)
        (by omega)
      exact fits _ (by omega) (by omega)
  | divide =>
      obtain ⟨divisor, quotient, quotients, rfl⟩ := suits
      have nonzero : problem.right ≠ 0 := by
        intro zero
        rw [zero, Int64.toInt_zero] at rights
        omega
      refine ⟨problem.left / problem.right, by simp only [if_neg nonzero], by omega, ?_⟩
      rw [Int64.toInt_div, lefts, rights, Int.tdiv_eq_ediv_of_nonneg (by omega),
        Int.mul_ediv_cancel _ (by omega), fits _ (by omega) (by omega)]

/-- Every problem that is drawn is answered, and the answer solves it. -/
theorem answer_generate (words : Words) (position : Nat) :
    ∃ answer, (generate.run words position).1.answer = .ok answer ∧
      (generate.run words position).1.SolvedBy answer.toInt := by
  obtain ⟨operation, left, right, same, suits⟩ := run_generate words position
  rw [same]
  exact answer_of_suits operation left right suits

end Gatehouse.Captcha.Problem

import Mathlib.Tactic.IntervalCases
import Gatehouse.Captcha.Picture
import Gatehouse.Proofs.Captcha.Problems

/-!
# Challenges can be solved

Whatever the random words are, the problem that is drawn has operands in the range
of its operation and an answer from 0 to 25 that solves it, and every character of
its question can be drawn.  No two problems ask the same question.
-/

set_option autoImplicit false

namespace Gatehouse.Captcha

/-! ## Every character has a bitmap -/

theorem glyph_of_isDigit (char : Char) (digit : Decimal.isDigit char = true) :
    (glyph? char).isSome = true := by
  have bounds : 48 ≤ char.toNat ∧ char.toNat ≤ 57 := by
    unfold Decimal.isDigit Decimal.digit? at digit
    split at digit
    · assumption
    · cases digit
  rw [← Char.ofNat_toNat char]
  generalize char.toNat = code at bounds
  obtain ⟨least, most⟩ := bounds
  interval_cases code <;> rfl

theorem glyph_symbol (operation : Operation) : (glyph? operation.symbol).isSome = true := by
  cases operation <;> rfl

theorem glyph_intChars (value : Int) :
    ∀ char ∈ Json.intChars value, (glyph? char).isSome = true := by
  have digits : ∀ magnitude : Nat, ∀ char ∈ (Nat.repr magnitude).toList,
      (glyph? char).isSome = true := by
    intro magnitude char inside
    rw [Nat.toList_repr] at inside
    exact glyph_of_isDigit char (Decimal.isDigit_of_mem_toDigits magnitude char inside)
  cases value with
  | ofNat magnitude => exact digits magnitude
  | negSucc magnitude => exact List.forall_mem_cons.mpr ⟨rfl, digits (magnitude + 1)⟩

/-- The blanks of a question are its only characters without a bitmap. -/
theorem glyph_question (problem : Problem) :
    ∀ char ∈ problem.question.toList, char ≠ ' ' → (glyph? char).isSome = true := by
  intro char inside solid
  rw [Problem.question, String.toList_ofList, Problem.questionChars] at inside
  simp only [List.mem_append, List.mem_cons, List.not_mem_nil, or_false] at inside
  rcases inside with left | blank | rfl | blank | right | blank | rfl | blank | rfl
  · exact glyph_intChars _ char left
  · exact absurd blank solid
  · exact glyph_symbol problem.operation
  · exact absurd blank solid
  · exact glyph_intChars _ char right
  · exact absurd blank solid
  · rfl
  · exact absurd blank solid
  · rfl

namespace Problem

/-! ## Ranges of what is drawn -/

theorem inRange_of_suits (operation : Operation) (left right : Int)
    (suits : Suits operation left right) : (ofInts left right operation).inRange = true := by
  have small := suits.small operation left right
  obtain ⟨lefts, rights⟩ := toInt_ofInts left right operation (by omega) (by omega)
  have operates : (ofInts left right operation).operation = operation := rfl
  unfold inRange
  rw [lefts, rights, operates]
  cases operation with
  | add => simpa [Suits, and_assoc] using suits
  | subtract => simpa [Suits, and_assoc] using suits
  | multiply => simpa [Suits, and_assoc] using suits
  | divide =>
      obtain ⟨⟨least, most⟩, quotient, quotients, rfl⟩ := suits
      have back : quotient * right / right = quotient := Int.mul_ediv_cancel _ (by omega)
      simp only [back, Int.mul_emod_left, Bool.and_eq_true, decide_eq_true_eq, beq_self_eq_true,
        and_true]
      exact ⟨⟨⟨least, most⟩, quotients.1⟩, quotients.2⟩

theorem SolvedBy.small (operation : Operation) (left right value : Int)
    (suits : Suits operation left right) (solved : (ofInts left right operation).SolvedBy value) :
    0 ≤ value ∧ value ≤ 25 := by
  have small := suits.small operation left right
  obtain ⟨lefts, rights⟩ := toInt_ofInts left right operation (by omega) (by omega)
  have operates : (ofInts left right operation).operation = operation := rfl
  unfold SolvedBy at solved
  rw [lefts, rights, operates] at solved
  cases operation with
  | add =>
      obtain ⟨one, other⟩ := suits
      subst solved
      omega
  | subtract =>
      obtain ⟨one, other⟩ := suits
      subst solved
      omega
  | multiply =>
      obtain ⟨one, other⟩ := suits
      subst solved
      have most : left * right ≤ 5 * 5 := Int.mul_le_mul (by omega) (by omega) (by omega)
        (by omega)
      exact ⟨Int.mul_nonneg (by omega) (by omega), by omega⟩
  | divide =>
      obtain ⟨divisor, quotient, quotients, rfl⟩ := suits
      obtain ⟨nonzero, product⟩ := solved
      have is : value = quotient := Int.eq_of_mul_eq_mul_right nonzero product
      omega

/-- Whatever the random words are, the operands that are drawn are in the range of the operation,
the answer can be computed, is the exact one and lies between 0 and 25, and every character of the
question but the blanks has a bitmap.  Problems of any operands that ask the same question are the
same problem, with the same answer. -/
theorem challenges_solvable (words : Words) (position : Nat) :
    let problem := (generate.run words position).1
    problem.inRange = true ∧
    (∃ answer, problem.answer = .ok answer ∧ problem.SolvedBy answer.toInt ∧
      0 ≤ answer.toInt ∧ answer.toInt ≤ 25) ∧
    (∀ char ∈ problem.question.toList, char ≠ ' ' → (glyph? char).isSome = true) ∧
    ∀ one other : Problem, one.question = other.question →
      (one.left = other.left ∧ one.right = other.right ∧ one.operation = other.operation) ∧
      one.answer = other.answer := by
  intro problem
  obtain ⟨operation, left, right, same, suits⟩ := run_generate words position
  have is : problem = ofInts left right operation := same
  refine ⟨?_, ?_, glyph_question problem, fun one other asks => ?_⟩
  · rw [is]
    exact inRange_of_suits operation left right suits
  · rw [is]
    obtain ⟨answer, answered, solved⟩ := answer_of_suits operation left right suits
    exact ⟨answer, answered, solved, solved.small operation left right answer.toInt suits⟩
  · cases question_injective one other asks
    exact ⟨⟨rfl, rfl, rfl⟩, rfl⟩

/-- The greatest words draw a division, after the draw has asked for a second word, and what is
asked differs from the division of the opposite numbers. -/
theorem challenges_solvable_greatest_words :
    let problem := (generate.run (fun _ => 0xFFFFFFFFFFFFFFFF) 0).1
    problem.question = "25 ÷ 5 = ?" ∧ problem.answer = .ok 5 ∧ problem.inRange = true ∧
      (∀ char ∈ problem.question.toList, char ≠ ' ' → (glyph? char).isSome = true) ∧
      (⟨-25, -5, .divide⟩ : Problem).question ≠ problem.question := by
  intro problem
  obtain ⟨ranges, -, drawn, unambiguous⟩ := challenges_solvable (fun _ => 0xFFFFFFFFFFFFFFFF) 0
  refine ⟨by decide, by decide, ranges, drawn, fun same => ?_⟩
  exact absurd (unambiguous _ _ same).1.1 (by decide)

end Problem

end Gatehouse.Captcha

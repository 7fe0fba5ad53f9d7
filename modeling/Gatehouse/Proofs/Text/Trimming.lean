import Gatehouse.Text.Blank
import Mathlib.Data.List.TakeWhile

/-!
# What trimming takes off

Trimming takes the blanks off either end of a text and nothing else: what is left
is the text between two runs of blanks (`exists_trim`), and a text between blanks
that neither starts nor ends with one is all that is left (`trim_between`).
-/

set_option autoImplicit false

namespace Gatehouse.Text

theorem trimStart_of_solid (chars : List Char)
    (solid : ∀ char, chars.head? = some char → isBlank char = false) :
    trimStart chars = chars := by
  cases chars with
  | nil => rfl
  | cons char rest => exact trimStart_of_head (solid char rfl)

theorem trimEnd_of_solid (chars : List Char)
    (solid : ∀ char, chars.getLast? = some char → isBlank char = false) :
    trimEnd chars = chars := by
  have front : trimStart chars.reverse = chars.reverse :=
    trimStart_of_solid _ fun char first => solid char (by rwa [List.head?_reverse] at first)
  rw [trimStart] at front
  rw [trimEnd, front, List.reverse_reverse]

/-- Blanks behind a text are taken off as the blanks in front of its mirror image. -/
theorem trimEnd_append_blanks (chars after : List Char)
    (blank : ∀ char ∈ after, isBlank char = true) : trimEnd (chars ++ after) = trimEnd chars := by
  have turned : ∀ char ∈ after.reverse, isBlank char = true :=
    fun char inside => blank char (List.mem_reverse.mp inside)
  rw [trimEnd, List.reverse_append, List.dropWhile_append_of_pos turned]
  rfl

theorem trim_between (before core after : List Char) (filled : core ≠ [])
    (front : ∀ char ∈ before, isBlank char = true) (back : ∀ char ∈ after, isBlank char = true)
    (solid : ∀ char ∈ core, isBlank char = false) : trim (before ++ core ++ after) = core := by
  have first : trimStart (before ++ core ++ after) = core ++ after := by
    rw [trimStart, List.append_assoc, List.dropWhile_append_of_pos front]
    refine trimStart_of_solid _ fun char starts => solid char ?_
    cases core with
    | nil => exact absurd rfl filled
    | cons lead rest => exact Option.some.inj starts ▸ List.mem_cons_self
  rw [trim, first, trimEnd_append_blanks core after back]
  exact trimEnd_of_solid core fun char ends => solid char (List.mem_of_getLast? ends)

theorem exists_trimStart (chars : List Char) :
    ∃ before, chars = before ++ trimStart chars ∧ ∀ char ∈ before, isBlank char = true :=
  ⟨chars.takeWhile isBlank, List.takeWhile_append_dropWhile.symm,
    fun _ inside => List.mem_takeWhile_imp inside⟩

theorem exists_trimEnd (chars : List Char) :
    ∃ after, chars = trimEnd chars ++ after ∧ ∀ char ∈ after, isBlank char = true := by
  obtain ⟨before, splits, blank⟩ := exists_trimStart chars.reverse
  refine ⟨before.reverse, ?_, fun char inside => blank char (List.mem_reverse.mp inside)⟩
  have turned := congrArg List.reverse splits
  rw [List.reverse_reverse, List.reverse_append] at turned
  exact turned

theorem exists_trim (chars : List Char) :
    ∃ before after, chars = before ++ trim chars ++ after ∧
      ∀ char ∈ before ++ after, isBlank char = true := by
  obtain ⟨before, starts, front⟩ := exists_trimStart chars
  obtain ⟨after, ends, back⟩ := exists_trimEnd (trimStart chars)
  refine ⟨before, after, ?_, fun char inside => ?_⟩
  · rw [trim, List.append_assoc, ← ends]
    exact starts
  · rcases List.mem_append.mp inside with inFront | behind
    · exact front char inFront
    · exact back char behind

end Gatehouse.Text

import Mathlib.Data.List.TakeWhile
import Gatehouse.Token.Codec

/-!
# The segments of a token

A token is cut at its last two dots.  `Segments.of?_eq_some_iff` says so without
the reversals of the definition: the cut text is the whole token, and neither
payload nor signature holds a dot.
-/

set_option autoImplicit false

namespace Gatehouse.Token

theorem splitLastDot?_eq_some_iff (chars before after : List Char) :
    splitLastDot? chars = some (before, after) ↔
      chars = before ++ '.' :: after ∧ '.' ∉ after := by
  have parts := List.takeWhile_append_dropWhile (p := fun char => char != '.') (l := chars.reverse)
  have undotted : '.' ∉ chars.reverse.takeWhile fun char => char != '.' := by
    intro member
    exact absurd (List.mem_takeWhile_imp member) (by decide)
  simp only [splitLastDot?]
  constructor
  · intro found
    cases rest : chars.reverse.dropWhile fun char => char != '.' with
    | nil =>
        rw [rest] at found
        cases found
    | cons dot tail =>
        rw [rest] at found
        cases Option.some.inj found
        have isDot : dot = '.' := by
          have head := List.head?_dropWhile_not (fun char => char != '.') chars.reverse
          rw [rest] at head
          simpa using head
        subst isDot
        rw [rest] at parts
        constructor
        · have turned := congrArg List.reverse parts
          rw [List.reverse_append, List.reverse_cons, List.reverse_reverse] at turned
          rw [List.append_assoc, List.singleton_append] at turned
          exact turned.symm
        · intro member
          exact undotted (List.mem_reverse.mp member)
  · rintro ⟨rfl, absent⟩
    have reversed : (before ++ '.' :: after).reverse = after.reverse ++ '.' :: before.reverse := by
      simp
    have solid : ∀ char ∈ after.reverse, (char != '.') = true := by
      intro char member
      have found := List.mem_reverse.mp member
      exact bne_iff_ne.mpr fun same => absent (same ▸ found)
    rw [reversed, List.takeWhile_append_of_pos solid, List.dropWhile_append_of_pos solid]
    simp

/-- Cutting a token gives the segments it is made of, and only the header may hold dots. -/
theorem Segments.of?_eq_some_iff (chars : List Char) (segments : Segments) :
    Segments.of? chars = some segments ↔
      chars = segments.chars ∧ '.' ∉ segments.payload ∧ '.' ∉ segments.signature := by
  rcases segments with ⟨header, payload, signature⟩
  simp only [Segments.of?, Segments.chars, Segments.signed, Option.bind_eq_bind,
    Option.bind_eq_some_iff, Prod.exists, splitLastDot?_eq_some_iff]
  constructor
  · rintro ⟨signed, last, ⟨whole, lastSolid⟩, front, middle, ⟨signedParts, middleSolid⟩, same⟩
    cases Option.some.inj same
    exact ⟨by rw [whole, signedParts], middleSolid, lastSolid⟩
  · rintro ⟨whole, payloadSolid, signatureSolid⟩
    exact ⟨header ++ '.' :: payload, signature, ⟨whole, signatureSolid⟩, header, payload,
      ⟨rfl, payloadSolid⟩, rfl⟩

end Gatehouse.Token

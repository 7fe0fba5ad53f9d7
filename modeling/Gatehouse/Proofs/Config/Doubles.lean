import Gatehouse.Config.Layers
import Gatehouse.Proofs.Text.Printing

/-!
# Texts that spell a double

A variable's text is taken for a double if it is a decimal with at least one
digit before or after its point, with or without a power of ten, or the word for
an infinity or for no number.  The double is the one nearest to the decimal.
-/

set_option autoImplicit false

namespace Gatehouse.Config

open Decimal (Digits Exponent)

/-- A point and the digits after it, or nothing. -/
inductive Fraction : List Char → List Char → Prop
  | none : Fraction [] []
  | point (digits : List Char) : Fraction ('.' :: digits) digits

/-- A mark and a power of ten after it, or nothing. -/
inductive Power : List Char → Int → Prop
  | none : Power [] 0
  | small {chars : List Char} {power : Int} (exponent : Exponent chars power) :
      Power ('e' :: chars) power
  | capital {chars : List Char} {power : Int} (exponent : Exponent chars power) :
      Power ('E' :: chars) power

/-- A decimal without a sign, as a natural number times a power of ten. -/
inductive Unsigned : List Char → Nat → Int → Prop
  | intro {whole point fraction exponent : List Char} {power : Int}
      (fractional : Fraction point fraction) (digits : Digits (whole ++ fraction))
      (scaled : Power exponent power) :
      Unsigned (whole ++ point ++ exponent) (Nat.ofDigitChars 10 (whole ++ fraction) 0)
        (power - fraction.length)

/-- The characters make the word, in whatever case. -/
def IsWord (word : String) (chars : List Char) : Prop :=
  String.ofList (chars.map Char.toLower) = word

/-- A sign or none, and the characters after it. -/
inductive Signed : List Char → Bool → List Char → Prop
  | none {rest : List Char} (plus : rest.head? ≠ some '+') (minus : rest.head? ≠ some '-') :
      Signed rest false rest
  | plus (rest : List Char) : Signed ('+' :: rest) false rest
  | minus (rest : List Char) : Signed ('-' :: rest) true rest

/-- A text spells the double nearest to its decimal, an infinity or no number. -/
inductive SpellsDouble (text : String) (double : Float) : Prop
  | decimal {negative : Bool} {rest : List Char} {significand : Nat} {scale : Int}
      (sign : Signed text.toList negative rest) (unsigned : Unsigned rest significand scale)
      (nearest : Doubles.Nearest (significand * 10 ^ scale) double)
      (side : Doubles.negative double = negative)
  | infinity {negative : Bool} {rest : List Char} (sign : Signed text.toList negative rest)
      (word : IsWord "inf" rest ∨ IsWord "infinity" rest) (is : double.isInf = true)
      (side : Doubles.negative double = negative)
  | nan {negative : Bool} {rest : List Char} (sign : Signed text.toList negative rest)
      (word : IsWord "nan" rest) (is : double.isNaN = true)

/-! ## Signs -/

theorem signed_splitSign (chars : List Char) :
    Signed chars (Toml.splitSign chars).1 (Toml.splitSign chars).2 := by
  unfold Toml.splitSign
  split
  · exact .minus _
  · exact .plus _
  · rename_i minus plus
    refine .none ?_ ?_
    all_goals
      intro first
      obtain ⟨rest, rfl⟩ := List.head?_eq_some_iff.mp first
    · exact plus rest rfl
    · exact minus rest rfl

theorem splitSign_of_signed {chars rest : List Char} {negative : Bool}
    (signed : Signed chars negative rest) : Toml.splitSign chars = (negative, rest) := by
  cases signed with
  | plus => rfl
  | minus => rfl
  | none plus minus =>
      unfold Toml.splitSign
      split
      · exact absurd rfl minus
      · exact absurd rfl plus
      · rfl

/-! ## Parts of a decimal -/

theorem span_append {keep : Char → Bool} {before after : List Char}
    (kept : ∀ char ∈ before, keep char = true)
    (stop : ∀ char ∈ after.head?, keep char = false) :
    (before ++ after).takeWhile keep = before ∧ (before ++ after).dropWhile keep = after := by
  rw [List.takeWhile_append_of_pos kept, List.dropWhile_append_of_pos kept]
  cases after with
  | nil => exact ⟨List.append_nil before, rfl⟩
  | cons char rest =>
      have stopped : ¬ keep char = true := by simp [stop char rfl]
      rw [List.takeWhile_cons_of_neg stopped, List.dropWhile_cons_of_neg stopped]
      exact ⟨List.append_nil before, rfl⟩

theorem ne_of_isDigit {char other : Char} (digit : Decimal.isDigit char = true)
    (different : Decimal.isDigit other = false) : char ≠ other := by
  rintro rfl
  rw [digit] at different
  cases different

theorem charIsDigit_of_isDigit {char : Char} (digit : Decimal.isDigit char = true) :
    char.isDigit = true := by
  unfold Decimal.isDigit Decimal.digit? at digit
  split at digit
  next bounds =>
    rw [Char.isDigit, Bool.and_eq_true, decide_eq_true_eq, decide_eq_true_eq]
    exact bounds
  next => cases digit

theorem fraction_dropWhile (chars : List Char) :
    Fraction (chars.dropWhile fun char => char != '.')
      ((chars.dropWhile fun char => char != '.').drop 1) := by
  have first := List.head?_dropWhile_not (fun char => char != '.') chars
  cases after : chars.dropWhile fun char => char != '.' with
  | nil => exact .none
  | cons char digits =>
      rw [after] at first
      have point : char = '.' := by simpa using first
      subst point
      exact .point digits

theorem unsigned_of_floatParts? {chars whole fraction : List Char} {power : Int}
    {significand : Nat} (parts : floatParts? chars = some (whole, fraction, power))
    (read : Decimal.natural? (whole ++ fraction) = some significand) :
    Unsigned chars significand (power - fraction.length) := by
  obtain ⟨digits, rfl⟩ := (Decimal.natural?_eq_some_iff _ _).mp read
  simp only [floatParts?] at parts
  split at parts
  · cases parts
  · obtain ⟨found, readPower, same⟩ := Option.map_eq_some_iff.mp parts
    cases same
    have scaled : Power (chars.dropWhile fun char => !(char == 'e' || char == 'E')) power := by
      have first := List.head?_dropWhile_not (fun char => !(char == 'e' || char == 'E')) chars
      cases after : chars.dropWhile fun char => !(char == 'e' || char == 'E') with
      | nil =>
          rw [after] at readPower
          cases readPower
          exact .none
      | cons mark numeral =>
          rw [after] at readPower first
          have spelled := (Decimal.power?_eq_some_iff _ _).mp readPower
          have either : mark = 'e' ∨ mark = 'E' := by
            rw [Decidable.or_iff_not_imp_left]
            simpa using first
          rcases either with rfl | rfl
          · exact .small spelled
          · exact .capital spelled
    have joined := Unsigned.intro (fraction_dropWhile _) digits scaled
    rw [List.takeWhile_append_dropWhile, List.takeWhile_append_dropWhile] at joined
    exact joined

theorem plain_of_mantissa {whole point fraction : List Char} (fractional : Fraction point fraction)
    (digits : Digits (whole ++ fraction)) :
    ∀ char ∈ whole ++ point, char = '.' ∨ Decimal.isDigit char = true := by
  intro char member
  rcases List.mem_append.mp member with before | after
  · exact .inr (digits.2 char (List.mem_append_left _ before))
  · cases fractional with
    | none => exact absurd after List.not_mem_nil
    | point fraction =>
        have either := List.mem_cons.mp after
        exact either.imp_right fun digit => digits.2 char (List.mem_append_right _ digit)

theorem unmarked_of_plain {char : Char} (plain : char = '.' ∨ Decimal.isDigit char = true) :
    (!(char == 'e' || char == 'E')) = true := by
  rcases plain with rfl | digit
  · decide
  · have small : char ≠ 'e' := ne_of_isDigit digit (by decide)
    have capital : char ≠ 'E' := ne_of_isDigit digit (by decide)
    simp [small, capital]

theorem floatParts?_append {whole point fraction exponent : List Char} {power : Int}
    (fractional : Fraction point fraction) (digits : Digits (whole ++ fraction))
    (scaled : Power exponent power) :
    floatParts? (whole ++ point ++ exponent) = some (whole, fraction, power) := by
  have marked : ∀ char ∈ exponent.head?, (!(char == 'e' || char == 'E')) = false := by
    cases scaled <;> simp
  have pointless : ∀ char ∈ whole, (char != '.') = true := by
    intro char member
    have noPoint : char ≠ '.' :=
      ne_of_isDigit (digits.2 char (List.mem_append_left _ member)) (by decide)
    simpa using noPoint
  have pointed : ∀ char ∈ point.head?, (char != '.') = false := by
    cases fractional <;> simp
  have mantissa := span_append
    (fun char member => unmarked_of_plain (plain_of_mantissa fractional digits char member)) marked
  have halves := span_append pointless pointed
  have dropped : point.drop 1 = fraction := by
    cases fractional <;> rfl
  have all : (whole ++ fraction).all Char.isDigit = true :=
    List.all_eq_true.mpr fun char member => charIsDigit_of_isDigit (digits.2 char member)
  have filled : (whole ++ fraction).isEmpty = false := by simpa using digits.1
  simp only [floatParts?, mantissa.1, mantissa.2, halves.1, halves.2, dropped, all, filled]
  cases scaled with
  | none => rfl
  | small exponent => simp [(Decimal.power?_eq_some_iff _ _).mpr exponent]
  | capital exponent => simp [(Decimal.power?_eq_some_iff _ _).mpr exponent]

/-! ## Words -/

theorem toLower_of_isDigit {char : Char} (digit : Decimal.isDigit char = true) :
    char.toLower = char := by
  have most : char.val ≤ '9'.val := by
    have bounds := charIsDigit_of_isDigit digit
    rw [Char.isDigit, Bool.and_eq_true, decide_eq_true_eq, decide_eq_true_eq] at bounds
    exact bounds.2
  have small : ¬ (char.val ≥ 'A'.val ∧ char.val ≤ 'Z'.val) := fun capital =>
    absurd (UInt32.le_trans capital.1 most) (by decide)
  exact dif_neg small

theorem head_of_unsigned {chars : List Char} {significand : Nat} {scale : Int}
    (unsigned : Unsigned chars significand scale) :
    ∃ char rest, chars = char :: rest ∧ (char = '.' ∨ Decimal.isDigit char = true) := by
  obtain ⟨fractional, digits, scaled⟩ := unsigned
  rename_i whole point fraction exponent power
  cases whole with
  | cons char whole =>
      exact ⟨char, _, rfl, .inr (digits.2 char List.mem_cons_self)⟩
  | nil =>
      cases fractional with
      | none => exact absurd rfl digits.1
      | point digits => exact ⟨'.', _, rfl, .inl rfl⟩

theorem not_isWord_of_unsigned {chars : List Char} {significand : Nat} {scale : Int}
    (unsigned : Unsigned chars significand scale) {word : String}
    (letter : word.toList.head? ∈ [some 'i', some 'n']) : ¬ IsWord word chars := by
  obtain ⟨char, rest, rfl, plain⟩ := head_of_unsigned unsigned
  have lower : char.toLower = char := by
    rcases plain with rfl | digit
    · rfl
    · exact toLower_of_isDigit digit
  have no_i : char ≠ 'i' := by
    rcases plain with rfl | digit
    · decide
    · exact ne_of_isDigit digit (by decide)
  have no_n : char ≠ 'n' := by
    rcases plain with rfl | digit
    · decide
    · exact ne_of_isDigit digit (by decide)
  rintro rfl
  rw [String.toList_ofList, List.map_cons, lower] at letter
  simp [no_i, no_n] at letter

/-! ## Doubles -/

theorem isInf_infinity (negative : Bool) :
    (if negative then -1.0 / 0.0 else 1.0 / 0.0 : Float).isInf = true ∧
      Doubles.negative (if negative then -1.0 / 0.0 else 1.0 / 0.0) = negative := by
  cases negative <;> decide +kernel

theorem spellsDouble_of_float? {text : String} {double : Float}
    (read : float? text = some double) : SpellsDouble text double := by
  have sign := signed_splitSign text.toList
  simp only [float?] at read
  generalize Toml.splitSign text.toList = split at sign read
  obtain ⟨negative, rest⟩ := split
  split at read
  next word =>
    cases read
    obtain ⟨is, side⟩ := isInf_infinity negative
    exact .infinity sign word is side
  next =>
    split at read
    next word =>
      cases read
      exact .nan sign word (by decide +kernel)
    next =>
      obtain ⟨⟨whole, fraction, power⟩, parts, scaled⟩ := Option.bind_eq_some_iff.mp read
      obtain ⟨significand, digits, same⟩ := Option.bind_eq_some_iff.mp scaled
      cases same
      obtain ⟨nearest, side⟩ :=
        Doubles.nearest_ofScaled negative significand (power - fraction.length)
      exact .decimal sign (unsigned_of_floatParts? parts digits) nearest side

/-- What spells a double is read as this double, but for the bits of one that is no number. -/
theorem exists_float? {text : String} {double : Float} (spelled : SpellsDouble text double) :
    ∃ found, float? text = some found ∧ Doubles.Same found double := by
  cases spelled with
  | @infinity negative rest sign word is side =>
      obtain ⟨infinite, same⟩ := isInf_infinity negative
      rw [Doubles.isInf_iff] at is infinite
      simp only [float?, splitSign_of_signed sign]
      exact ⟨_, if_pos word, .inr ⟨infinite.trans is.symm, same.trans side.symm⟩⟩
  | @nan negative rest sign word is =>
      have others : ¬ (IsWord "inf" rest ∨ IsWord "infinity" rest) := by
        rw [IsWord, IsWord, word]
        decide
      simp only [float?, splitSign_of_signed sign]
      exact ⟨_, (if_neg others).trans (if_pos word), .inl ⟨by decide +kernel, is⟩⟩
  | @decimal negative rest significand scale sign unsigned nearest side =>
      have others : ¬ (IsWord "inf" rest ∨ IsWord "infinity" rest) :=
        not_or.mpr ⟨not_isWord_of_unsigned unsigned (by decide),
          not_isWord_of_unsigned unsigned (by decide)⟩
      have noNumber : ¬ IsWord "nan" rest := not_isWord_of_unsigned unsigned (by decide)
      obtain ⟨also, same⟩ := Doubles.nearest_ofScaled negative significand scale
      refine ⟨_, ?_, also.same (by positivity) nearest (same.trans side.symm)⟩
      obtain ⟨fractional, digits, scaled⟩ := unsigned
      simp only [float?, splitSign_of_signed sign]
      refine (if_neg others).trans ((if_neg noNumber).trans ?_)
      simp only [floatParts?_append fractional digits scaled, Option.bind_eq_bind, Option.bind_some,
        (Decimal.natural?_eq_some_iff _ _).mpr ⟨digits, rfl⟩]

theorem float?_eq_none_iff (text : String) :
    float? text = none ↔ ∀ double, ¬ SpellsDouble text double := by
  constructor
  · intro missing double spelled
    obtain ⟨found, read, -⟩ := exists_float? spelled
    rw [missing] at read
    cases read
  · intro spells
    refine Option.eq_none_iff_forall_ne_some.mpr fun double read => ?_
    exact spells double (spellsDouble_of_float? read)

end Gatehouse.Config

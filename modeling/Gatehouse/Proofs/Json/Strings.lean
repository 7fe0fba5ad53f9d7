import Gatehouse.Json
import Gatehouse.Json.Outline
import Gatehouse.Proofs.Text.Utf8

/-!
# Written strings are read back

Between its quotes a text is a row of spellings, one for each character: the
bytes of the character, an escape of two bytes, or an escape of six.  The
scanner passes over a spelling as a whole, and what a spelling stands for are
the bytes of the character, so `rawText?_spelled` gives every text back.
-/

set_option autoImplicit false

namespace Gatehouse.Json

open Gatehouse.Text

def escapeLetters : List UInt8 := [0x22, 0x5C, 0x2F, 0x62, 0x66, 0x6E, 0x72, 0x74]

def PlainByte (byte : UInt8) : Prop :=
  ¬ byte < 0x20 ∧ byte ≠ 0x22 ∧ byte ≠ 0x5C

instance (byte : UInt8) : Decidable (PlainByte byte) :=
  inferInstanceAs (Decidable (_ ∧ _ ∧ _))

/-- The first bytes stand inside a string for the second. -/
inductive Spelling : List UInt8 → List UInt8 → Prop
  | plain (data : List UInt8) (solid : ∀ byte ∈ data, PlainByte byte) : Spelling data data
  | short (letter : UInt8) (known : letter ∈ escapeLetters) :
      Spelling [0x5C, letter] [escapedByte letter]
  | long (a b c d : UInt8)
      (digits : ∀ byte ∈ [a, b, c, d], Outline.isHexDigit byte = true)
      (small : hexFour a b c d < 128) :
      Spelling [0x5C, 0x75, a, b, c, d] (String.utf8EncodeChar (Char.ofNat (hexFour a b c d)))

/-! ## Scanning and reading a spelling -/

theorem rawString_plain (sofar rest : List UInt8) (byte : UInt8) (solid : PlainByte byte) :
    Outline.rawString sofar (byte :: rest) = Outline.rawString (byte :: sofar) rest := by
  obtain ⟨least, notQuote, notBackslash⟩ := solid
  rw [Outline.rawString]
  · simp [least, notBackslash]
  · exact notQuote
  · intro _ _ _ _ _ same
    exact absurd same notBackslash
  · intro _ _ same
    exact absurd same notBackslash

theorem unescape_plain (sofar rest : List UInt8) (byte : UInt8) (solid : PlainByte byte) :
    unescape sofar (byte :: rest) = unescape (byte :: sofar) rest := by
  obtain ⟨_, _, notBackslash⟩ := solid
  rw [unescape]
  · intro _ _ _ _ _ same
    exact absurd same notBackslash
  · intro _ _ same
    exact absurd same notBackslash

theorem rawString_append_plain (data sofar rest : List UInt8)
    (solid : ∀ byte ∈ data, PlainByte byte) :
    Outline.rawString sofar (data ++ rest) = Outline.rawString (data.reverse ++ sofar) rest := by
  induction data generalizing sofar with
  | nil => rfl
  | cons byte data ih =>
      have headSolid := solid byte (by simp)
      have tailSolid : ∀ other ∈ data, PlainByte other := by
        intro other member
        exact solid other (by simp [member])
      rw [List.cons_append, rawString_plain _ _ _ headSolid, ih _ tailSolid]
      simp

theorem unescape_append_plain (data sofar rest : List UInt8)
    (solid : ∀ byte ∈ data, PlainByte byte) :
    unescape sofar (data ++ rest) = unescape (data.reverse ++ sofar) rest := by
  induction data generalizing sofar with
  | nil => rfl
  | cons byte data ih =>
      have headSolid := solid byte (by simp)
      have tailSolid : ∀ other ∈ data, PlainByte other := by
        intro other member
        exact solid other (by simp [member])
      rw [List.cons_append, unescape_plain _ _ _ headSolid, ih _ tailSolid]
      simp

theorem rawString_append_spelling (spelled meant sofar rest : List UInt8)
    (spelling : Spelling spelled meant) :
    Outline.rawString sofar (spelled ++ rest) =
      Outline.rawString (spelled.reverse ++ sofar) rest := by
  cases spelling with
  | plain data solid => exact rawString_append_plain _ _ _ solid
  | short letter known =>
      simp only [escapeLetters, List.mem_cons, List.not_mem_nil, or_false] at known
      rcases known with rfl | rfl | rfl | rfl | rfl | rfl | rfl | rfl <;> rfl
  | long a b c d digits small =>
      have digitA := digits a (by simp)
      have digitB := digits b (by simp)
      have digitC := digits c (by simp)
      have digitD := digits d (by simp)
      simp [Outline.rawString, digitA, digitB, digitC, digitD]

theorem unescape_append_spelling (spelled meant sofar rest : List UInt8)
    (spelling : Spelling spelled meant) :
    unescape sofar (spelled ++ rest) = unescape (meant.reverse ++ sofar) rest := by
  cases spelling with
  | plain data solid => exact unescape_append_plain _ _ _ solid
  | short letter known =>
      simp only [escapeLetters, List.mem_cons, List.not_mem_nil, or_false] at known
      rcases known with rfl | rfl | rfl | rfl | rfl | rfl | rfl | rfl <;> rfl
  | long a b c d digits small =>
      have noLow : ¬ (0xDC00 ≤ hexFour a b c d ∧ hexFour a b c d ≤ 0xDFFF) := by omega
      have noHigh : ¬ (0xD800 ≤ hexFour a b c d ∧ hexFour a b c d ≤ 0xDBFF) := by omega
      rw [unescape.eq_def]
      simp only [List.cons_append, List.nil_append, if_neg noLow, if_neg noHigh]

/-! ## The spelling of a character -/

theorem plainByte_ofNat (value : Nat) (least : 32 ≤ value) (small : value < 128)
    (notQuote : value ≠ 0x22) (notBackslash : value ≠ 0x5C) :
    PlainByte (UInt8.ofNat value) := by
  have same : (UInt8.ofNat value).toNat = value := UInt8.toNat_ofNat_of_lt' (by show _ < 256; omega)
  refine ⟨?_, ?_, ?_⟩
  · rw [UInt8.lt_iff_toNat_lt, same]
    show ¬ value < 32
    omega
  · intro quote
    rw [quote] at same
    exact notQuote same.symm
  · intro backslash
    rw [backslash] at same
    exact notBackslash same.symm

theorem plainByte_of_mem_utf8EncodeChar (char : Char) (least : 32 ≤ char.toNat)
    (notQuote : char.toNat ≠ 0x22) (notBackslash : char.toNat ≠ 0x5C) (byte : UInt8)
    (member : byte ∈ String.utf8EncodeChar char) :
    PlainByte byte := by
  by_cases small : char.toNat < 128
  · rw [utf8EncodeChar_of_lt char small, List.mem_singleton] at member
    subst member
    exact plainByte_ofNat _ least small notQuote notBackslash
  · have high := le_of_mem_utf8EncodeChar char (by omega) byte member
    refine ⟨?_, ?_, ?_⟩
    · rw [UInt8.lt_iff_toNat_lt]
      show ¬ byte.toNat < 32
      omega
    · rintro rfl
      exact absurd high (by decide)
    · rintro rfl
      exact absurd high (by decide)

theorem spelling_control :
    ∀ value < 32,
      (∀ byte ∈ [0x30, 0x30, UInt8.ofNat (hexDigit (value / 16)).toNat,
        UInt8.ofNat (hexDigit (value % 16)).toNat], Outline.isHexDigit byte = true) ∧
      hexFour 0x30 0x30 (UInt8.ofNat (hexDigit (value / 16)).toNat)
        (UInt8.ofNat (hexDigit (value % 16)).toNat) = value ∧
      utf8 ['\\', 'u', '0', '0', hexDigit (value / 16), hexDigit (value % 16)] =
        [0x5C, 0x75, 0x30, 0x30, UInt8.ofNat (hexDigit (value / 16)).toNat,
          UInt8.ofNat (hexDigit (value % 16)).toNat] := by
  decide +kernel

theorem spelling_escape (char : Char) :
    Spelling (utf8 (escape char)) (String.utf8EncodeChar char) := by
  unfold escape
  split
  · rename_i same
    subst same
    exact .short 0x22 (by decide)
  split
  · rename_i same
    subst same
    exact .short 0x5C (by decide)
  split
  · rename_i code
    rw [utf8EncodeChar_of_lt char (by omega), code]
    exact .short 0x62 (by decide)
  split
  · rename_i code
    rw [utf8EncodeChar_of_lt char (by omega), code]
    exact .short 0x66 (by decide)
  split
  · rename_i same
    subst same
    exact .short 0x6E (by decide)
  split
  · rename_i same
    subst same
    exact .short 0x72 (by decide)
  split
  · rename_i same
    subst same
    exact .short 0x74 (by decide)
  split
  · rename_i control
    obtain ⟨digits, code, written⟩ := spelling_control char.toNat control
    have spelling := Spelling.long 0x30 0x30 _ _ digits (by omega)
    rw [code, Char.ofNat_toNat] at spelling
    rw [written]
    exact spelling
  · rename_i notQuote notBackslash _ _ _ _ _ notControl
    have plain : Spelling (String.utf8EncodeChar char) (String.utf8EncodeChar char) := by
      refine .plain _ fun byte member => ?_
      refine plainByte_of_mem_utf8EncodeChar char (by omega) ?_ ?_ byte member
      · exact fun code => notQuote (Char.toNat_inj.mp code)
      · exact fun code => notBackslash (Char.toNat_inj.mp code)
    simpa using plain

/-! ## Whole strings -/

def spelled (text : String) : List UInt8 :=
  utf8 (text.toList.flatMap escape)

theorem utf8_quoted (text : String) : utf8 (quoted text) = 0x22 :: (spelled text ++ [0x22]) := by
  simp only [quoted, utf8_cons, utf8_append, spelled]
  rfl

theorem rawString_append_spelled (chars : List Char) (sofar rest : List UInt8) :
    Outline.rawString sofar (utf8 (chars.flatMap escape) ++ rest) =
      Outline.rawString ((utf8 (chars.flatMap escape)).reverse ++ sofar) rest := by
  induction chars generalizing sofar with
  | nil => rfl
  | cons char chars ih =>
      rw [List.flatMap_cons, utf8_append, List.append_assoc,
        rawString_append_spelling _ _ _ _ (spelling_escape char), ih]
      simp

theorem unescape_append_spelled (chars : List Char) (sofar rest : List UInt8) :
    unescape sofar (utf8 (chars.flatMap escape) ++ rest) =
      unescape ((utf8 chars).reverse ++ sofar) rest := by
  induction chars generalizing sofar with
  | nil => rfl
  | cons char chars ih =>
      rw [List.flatMap_cons, utf8_append, List.append_assoc,
        unescape_append_spelling _ _ _ _ (spelling_escape char), ih]
      simp

theorem rawString_spelled (text : String) (rest : List UInt8) :
    Outline.rawString [] (spelled text ++ 0x22 :: rest) = some (spelled text, rest) := by
  rw [spelled, rawString_append_spelled, List.append_nil, Outline.rawString, List.reverse_reverse]

@[simp] theorem rawText?_spelled (text : String) : rawText? (spelled text) = some text := by
  have read := unescape_append_spelled text.toList [] []
  rw [List.append_nil, List.append_nil, unescape, List.reverse_reverse, ← bytes_eq_utf8] at read
  rw [rawText?, spelled, read, Option.bind_some, ofBytes?_bytes]

end Gatehouse.Json

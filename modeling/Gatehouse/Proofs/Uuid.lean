import Mathlib.Algebra.Group.Nat.Defs
import Mathlib.Data.List.Induction
import Gatehouse.Proofs.Text.Base64
import Gatehouse.Uuid

/-!
# The spellings of an identifier

A text is read as an identifier exactly if, in lower case, it is one of four texts
of it: its digits alone, the canonical text, that text in braces, or behind
`urn:uuid:` (`ofText?_eq_some_iff`).  So every identifier is read back from its
canonical text, and different identifiers never share a text.
-/

set_option autoImplicit false

namespace Gatehouse.Uuid

/-! ## Hexadecimal digits -/

theorem toNat_toLower (char : Char) :
    char.toLower.toNat =
      if 65 ≤ char.toNat ∧ char.toNat ≤ 90 then char.toNat + 32 else char.toNat := by
  have capital : (char.val ≥ 'A'.val ∧ char.val ≤ 'Z'.val) ↔
      65 ≤ char.toNat ∧ char.toNat ≤ 90 := by
    rw [ge_iff_le, UInt32.le_iff_toNat_le, UInt32.le_iff_toNat_le]
    exact Iff.rfl
  by_cases upper : char.val ≥ 'A'.val ∧ char.val ≤ 'Z'.val
  · have lowered : char.toLower.toNat = (char.val + ('a'.val - 'A'.val)).toNat :=
      congrArg Char.toNat (dif_pos upper)
    have bounds := capital.mp upper
    have most : char.val.toNat ≤ 90 := bounds.2
    have step : ('a'.val - 'A'.val).toNat = 32 := by decide
    rw [if_pos bounds, lowered, UInt32.toNat_add, step]
    show (char.val.toNat + 32) % 2 ^ 32 = char.val.toNat + 32
    omega
  · have kept : char.toLower = char := dif_neg upper
    rw [if_neg fun bounds => upper (capital.mpr bounds), kept]

theorem toLower_eq_iff (char mark : Char) (plain : mark.toNat < 65 ∨ 122 < mark.toNat) :
    char.toLower = mark ↔ char = mark := by
  rw [← Char.toNat_inj, ← Char.toNat_inj, toNat_toLower]
  grind

theorem hexValue?_eq (char : Char) :
    hexValue? char =
      if 48 ≤ char.toNat ∧ char.toNat ≤ 57 then some (char.toNat - 48)
      else if 97 ≤ char.toNat ∧ char.toNat ≤ 102 then some (char.toNat - 87)
      else if 65 ≤ char.toNat ∧ char.toNat ≤ 70 then some (char.toNat - 55)
      else none := by
  simp only [hexValue?, Base64.char_le_iff, Char.reduceToNat]

theorem toNat_hexChar :
    ∀ digit < 16, (hexChar digit).toNat = if digit < 10 then 48 + digit else 87 + digit := by
  decide

theorem hexValue?_eq_some_iff (char : Char) (digit : Nat) :
    hexValue? char = some digit ↔ digit < 16 ∧ char.toLower = hexChar digit := by
  have lower := toNat_toLower char
  rw [hexValue?_eq]
  constructor
  · intro found
    have small : digit < 16 := by grind
    refine ⟨small, Char.toNat_inj.mp ?_⟩
    rw [lower, toNat_hexChar digit small]
    grind
  · rintro ⟨small, spelled⟩
    rw [spelled, toNat_hexChar digit small] at lower
    grind

theorem length_hexDigits (count value : Nat) : (hexDigits count value).length = count := by
  induction count generalizing value with
  | zero => rfl
  | succ count ih => rw [hexDigits, List.length_append, ih, List.length_singleton]

theorem mem_hexDigits (count value : Nat) (char : Char) (inside : char ∈ hexDigits count value) :
    ∃ digit < 16, char = hexChar digit := by
  induction count generalizing value with
  | zero => cases inside
  | succ count ih =>
      rw [hexDigits, List.mem_append, List.mem_singleton] at inside
      rcases inside with front | rfl
      · exact ih _ front
      · exact ⟨value % 16, Nat.mod_lt _ (by decide), rfl⟩

theorem ofHexDigits?_eq_some_iff (chars : List Char) (value : Nat) :
    ofHexDigits? chars = some value ↔
      value < 16 ^ chars.length ∧ chars.map Char.toLower = hexDigits chars.length value := by
  induction chars using List.reverseRecOn generalizing value with
  | nil =>
      have nothing : ofHexDigits? [] = some value ↔ value = 0 := by
        simp [ofHexDigits?, eq_comm]
      rw [nothing]
      exact ⟨fun zero => ⟨by simp [zero], rfl⟩, fun ⟨few, _⟩ => Nat.lt_one_iff.mp few⟩
  | append_singleton chars char ih =>
      have snoc : ofHexDigits? (chars ++ [char]) = some value ↔ ∃ front digit,
          ofHexDigits? chars = some front ∧ hexValue? char = some digit ∧
            front * 16 + digit = value := by
        simp [ofHexDigits?, List.foldlM_append, Option.bind_eq_some_iff]
      rw [snoc, List.length_append, List.length_singleton, List.map_append, hexDigits,
        Nat.pow_succ]
      constructor
      · rintro ⟨front, digit, first, last, rfl⟩
        obtain ⟨few, fronts⟩ := (ih front).mp first
        obtain ⟨small, spelled⟩ := (hexValue?_eq_some_iff char digit).mp last
        have divided : (front * 16 + digit) / 16 = front := by omega
        have rest : (front * 16 + digit) % 16 = digit := by omega
        refine ⟨by omega, ?_⟩
        rw [divided, rest, fronts, List.map_singleton, spelled]
      · rintro ⟨few, spelled⟩
        obtain ⟨fronts, last⟩ := List.append_inj' spelled (by simp)
        have front := (ih (value / 16)).mpr ⟨by omega, fronts⟩
        have digit := (hexValue?_eq_some_iff char (value % 16)).mpr
          ⟨Nat.mod_lt _ (by decide), List.singleton_inj.mp last⟩
        exact ⟨value / 16, value % 16, front, digit, by omega⟩

theorem length_digits (id : Uuid) : id.digits.length = 32 :=
  length_hexDigits 32 _

theorem ofDigits?_eq_some_iff (chars : List Char) (id : Uuid) :
    ofDigits? chars = some id ↔ chars.map Char.toLower = id.digits := by
  rw [ofDigits?]
  constructor
  · intro found
    split at found
    · rename_i long
      obtain ⟨value, read, rfl⟩ := Option.map_eq_some_iff.mp found
      obtain ⟨few, spelled⟩ := (ofHexDigits?_eq_some_iff chars value).mp read
      rw [long] at few spelled
      have whole : (BitVec.ofNat 128 value).toNat = value := Nat.mod_eq_of_lt few
      rw [digits, whole, spelled]
    · cases found
  · intro spelled
    have long : chars.length = 32 := by
      rw [← List.length_map (f := Char.toLower), spelled, length_digits]
    have read : ofHexDigits? chars = some id.value.toNat := by
      rw [ofHexDigits?_eq_some_iff, long]
      exact ⟨id.value.isLt, spelled⟩
    rw [if_pos long, read]
    simp

/-! ## Hyphens -/

/-- Five groups of characters, as long as those of a hyphenated text. -/
structure Grouped (a b c d e : List Char) : Prop where
  first : a.length = 8
  second : b.length = 4
  third : c.length = 4
  fourth : d.length = 4
  last : e.length = 12

theorem Grouped.map (a b c d e : List Char) (grouped : Grouped a b c d e) (change : Char → Char) :
    Grouped (a.map change) (b.map change) (c.map change) (d.map change) (e.map change) := by
  obtain ⟨first, second, third, fourth, last⟩ := grouped
  constructor <;> rwa [List.length_map]

theorem Grouped.of_map (a b c d e : List Char) (change : Char → Char)
    (grouped : Grouped (a.map change) (b.map change) (c.map change) (d.map change)
      (e.map change)) : Grouped a b c d e := by
  obtain ⟨first, second, third, fourth, last⟩ := grouped
  rw [List.length_map] at first second third fourth last
  exact ⟨first, second, third, fourth, last⟩

theorem exists_grouped (chars : List Char) (long : chars.length = 32) :
    ∃ a b c d e, Grouped a b c d e ∧ chars = a ++ b ++ c ++ d ++ e := by
  have cut : ∀ start, chars.drop start =
      (chars.drop start).take 4 ++ chars.drop (start + 4) := by
    intro start
    rw [← List.drop_drop, List.take_append_drop]
  refine ⟨chars.take 8, (chars.drop 8).take 4, (chars.drop 12).take 4, (chars.drop 16).take 4,
    chars.drop 20, ⟨by simp [long], by simp [long], by simp [long], by simp [long],
      by simp [long]⟩, ?_⟩
  rw [List.append_assoc, List.append_assoc, List.append_assoc, ← cut 16, ← cut 12, ← cut 8,
    List.take_append_drop]

theorem Grouped.hyphenate (a b c d e : List Char) (grouped : Grouped a b c d e) :
    hyphenate (a ++ b ++ c ++ d ++ e) = a ++ '-' :: b ++ '-' :: c ++ '-' :: d ++ '-' :: e := by
  obtain ⟨first, second, third, fourth, last⟩ := grouped
  simp (disch := omega) [Uuid.hyphenate, List.drop_append, List.drop_of_length_le, first, second,
    third]

theorem Grouped.ofHyphenated? (a b c d e : List Char) (grouped : Grouped a b c d e) :
    ofHyphenated? (a ++ '-' :: b ++ '-' :: c ++ '-' :: d ++ '-' :: e) =
      ofDigits? (a ++ b ++ c ++ d ++ e) := by
  obtain ⟨first, second, third, fourth, last⟩ := grouped
  have shape : (a ++ '-' :: b ++ '-' :: c ++ '-' :: d ++ '-' :: e).length = 36 := by
    simp [first, second, third, fourth, last]
  rw [Uuid.ofHyphenated?, if_pos ⟨shape, by simp [first],
    by simp [List.getElem?_append, first, second],
    by simp [List.getElem?_append, first, second, third],
    by simp [List.getElem?_append, first, second, third, fourth]⟩]
  simp (disch := omega) [List.drop_append, List.drop_of_length_le, first, second, third, fourth]

/-- What stands from one place to a mark, and what stands behind the mark. -/
theorem drop_at_mark (chars : List Char) (start count : Nat) (mark : Char)
    (there : chars[start + count]? = some mark) :
    chars.drop start = (chars.drop start).take count ++ mark :: chars.drop (start + count + 1) := by
  obtain ⟨bound, found⟩ := List.getElem?_eq_some_iff.mp there
  rw [← found, ← List.drop_eq_getElem_cons bound, ← List.drop_drop, List.take_append_drop]

theorem exists_hyphened (chars : List Char) (long : chars.length = 36)
    (first : chars[8]? = some '-') (second : chars[13]? = some '-') (third : chars[18]? = some '-')
    (fourth : chars[23]? = some '-') :
    ∃ a b c d e, Grouped a b c d e ∧
      chars = a ++ '-' :: b ++ '-' :: c ++ '-' :: d ++ '-' :: e := by
  refine ⟨chars.take 8, (chars.drop 9).take 4, (chars.drop 14).take 4, (chars.drop 19).take 4,
    chars.drop 24, ⟨by simp [long], by simp [long], by simp [long], by simp [long],
      by simp [long]⟩, ?_⟩
  have front := drop_at_mark chars 0 8 '-' first
  rw [List.drop_zero] at front
  rw [List.append_assoc, List.append_assoc, List.append_assoc, List.cons_append, List.cons_append,
    List.cons_append, ← drop_at_mark chars 19 4 '-' fourth, ← drop_at_mark chars 14 4 '-' third,
    ← drop_at_mark chars 9 4 '-' second, ← front]

/-- A text in either case is read as the identifier whose canonical text it is. -/
theorem ofHyphenated?_eq_some_iff (chars : List Char) (id : Uuid) :
    ofHyphenated? chars = some id ↔ chars.map Char.toLower = id.chars := by
  have hyphen (char : Char) : char.toLower = '-' ↔ char = '-' :=
    toLower_eq_iff char '-' (by decide)
  constructor
  · intro found
    have shape : chars.length = 36 ∧ chars[8]? = some '-' ∧ chars[13]? = some '-' ∧
        chars[18]? = some '-' ∧ chars[23]? = some '-' := by
      by_contra other
      rw [ofHyphenated?, if_neg other] at found
      cases found
    obtain ⟨long, first, second, third, fourth⟩ := shape
    obtain ⟨a, b, c, d, e, grouped, rfl⟩ := exists_hyphened chars long first second third fourth
    rw [grouped.ofHyphenated?, ofDigits?_eq_some_iff] at found
    have lowered := grouped.map a b c d e Char.toLower
    simp only [List.map_append] at found
    rw [Uuid.chars, ← found, lowered.hyphenate]
    simp only [List.map_append, List.map_cons, (hyphen '-').mpr rfl]
  · intro spelled
    obtain ⟨a, b, c, d, e, grouped, digits⟩ := exists_grouped id.digits id.length_digits
    rw [Uuid.chars, digits, grouped.hyphenate] at spelled
    simp only [List.map_eq_append_iff, List.map_eq_cons_iff, hyphen] at spelled
    obtain ⟨_, _, rfl, ⟨_, _, rfl, ⟨_, _, rfl, ⟨a, _, rfl, rfl, _, b, rfl, rfl, rfl⟩, _, c, rfl,
      rfl, rfl⟩, _, d, rfl, rfl, rfl⟩, _, e, rfl, rfl, rfl⟩ := spelled
    have shape := grouped.of_map a b c d e Char.toLower
    rw [shape.ofHyphenated?, ofDigits?_eq_some_iff, digits]
    simp only [List.map_append]

/-! ## The four forms -/

/-- The texts of an identifier in lower case, one of each form. -/
def spellings (id : Uuid) : List (List Char) :=
  [id.digits, id.chars, '\x7b' :: id.chars ++ ['\x7d'], "urn:uuid:".toList ++ id.chars]

theorem length_chars (id : Uuid) : id.chars.length = 36 := by
  simp [chars, hyphenate, length_digits]

theorem unbraced?_eq_some_iff (chars inner : List Char) :
    unbraced? chars = some inner ↔ chars = '\x7b' :: inner ++ ['\x7d'] := by
  constructor
  · intro found
    unfold unbraced? at found
    split at found
    · rename_i rest
      split at found
      · rename_i closed
        obtain ⟨front, rfl⟩ := List.getLast?_eq_some_iff.mp closed
        cases found
        simp
      · cases found
    · cases found
  · rintro rfl
    simp [unbraced?]

theorem afterUrn?_eq_some_iff (chars inner : List Char) :
    afterUrn? chars = some inner ↔
      ∃ front, front.map Char.toLower = "urn:uuid:".toList ∧ chars = front ++ inner := by
  rw [afterUrn?]
  constructor
  · intro found
    split at found
    · rename_i labelled
      cases found
      exact ⟨chars.take 9, labelled, (List.take_append_drop 9 chars).symm⟩
    · cases found
  · rintro ⟨front, labelled, rfl⟩
    have long : front.length = 9 := by
      rw [← List.length_map (f := Char.toLower), labelled]
      rfl
    rw [List.take_left' long, List.drop_left' long, if_pos labelled]

theorem braced_eq_some_iff (chars : List Char) (id : Uuid) :
    (unbraced? chars).bind ofHyphenated? = some id ↔
      chars.map Char.toLower = '\x7b' :: id.chars ++ ['\x7d'] := by
  have opening (char : Char) : char.toLower = '\x7b' ↔ char = '\x7b' :=
    toLower_eq_iff char '\x7b' (by decide)
  have closing (char : Char) : char.toLower = '\x7d' ↔ char = '\x7d' :=
    toLower_eq_iff char '\x7d' (by decide)
  rw [Option.bind_eq_some_iff]
  constructor
  · rintro ⟨inner, braced, read⟩
    rw [ofHyphenated?_eq_some_iff] at read
    rw [(unbraced?_eq_some_iff chars inner).mp braced, List.map_append, List.map_cons,
      List.map_singleton, read, (opening _).mpr rfl, (closing _).mpr rfl]
  · intro spelled
    simp only [List.cons_append, List.map_eq_cons_iff, List.map_eq_append_iff, opening, closing,
      List.map_eq_nil_iff] at spelled
    obtain ⟨_, _, rfl, rfl, inner, _, rfl, read, _, _, rfl, rfl, rfl⟩ := spelled
    exact ⟨inner, (unbraced?_eq_some_iff _ inner).mpr rfl,
      (ofHyphenated?_eq_some_iff inner id).mpr read⟩

theorem urn_eq_some_iff (chars : List Char) (id : Uuid) :
    (afterUrn? chars).bind ofHyphenated? = some id ↔
      chars.map Char.toLower = "urn:uuid:".toList ++ id.chars := by
  rw [Option.bind_eq_some_iff, List.map_eq_append_iff]
  constructor
  · rintro ⟨inner, labelled, read⟩
    obtain ⟨front, label, rfl⟩ := (afterUrn?_eq_some_iff chars inner).mp labelled
    exact ⟨front, inner, rfl, label, (ofHyphenated?_eq_some_iff inner id).mp read⟩
  · rintro ⟨front, inner, rfl, label, read⟩
    exact ⟨inner, (afterUrn?_eq_some_iff _ inner).mpr ⟨front, label, rfl⟩,
      (ofHyphenated?_eq_some_iff inner id).mpr read⟩

theorem ofChars?_eq_some_iff (chars : List Char) (id : Uuid) :
    ofChars? chars = some id ↔ chars.map Char.toLower ∈ id.spellings := by
  rw [spellings, List.mem_cons, List.mem_cons, List.mem_cons, List.mem_singleton,
    ← ofDigits?_eq_some_iff, ← ofHyphenated?_eq_some_iff, ← braced_eq_some_iff, ← urn_eq_some_iff]
  constructor
  · intro found
    rw [ofChars?] at found
    split at found
    · rename_i read
      exact Or.inl (read.trans found)
    · split at found
      · rename_i read
        exact Or.inr (Or.inl (read.trans found))
      · split at found
        · rename_i inner braced
          exact Or.inr (Or.inr (Or.inl (Option.bind_eq_some_iff.mpr ⟨inner, braced, found⟩)))
        · split at found
          · rename_i inner labelled
            exact Or.inr (Or.inr (Or.inr (Option.bind_eq_some_iff.mpr ⟨inner, labelled, found⟩)))
          · cases found
  · -- each form has a length of its own, and so the forms that are tried before do not fit
    have long (form : List Char) (spelled : chars.map Char.toLower = form) :
        chars.length = form.length := by
      rw [← spelled, List.length_map]
    have undigited (other : chars.length ≠ 32) : ofDigits? chars = none := by
      rw [ofDigits?, if_neg other]
    have unhyphened (other : chars.length ≠ 36) : ofHyphenated? chars = none := by
      rw [ofHyphenated?, if_neg fun shape => other shape.1]
    rintro (read | read | read | read)
    · rw [ofChars?, read]
    · have length := long _ ((ofHyphenated?_eq_some_iff chars id).mp read)
      rw [length_chars] at length
      rw [ofChars?, undigited (by omega), read]
    · have length := long _ ((braced_eq_some_iff chars id).mp read)
      simp only [List.length_append, List.length_cons, List.length_nil, length_chars] at length
      obtain ⟨inner, braced, inside⟩ := Option.bind_eq_some_iff.mp read
      rw [ofChars?, undigited (by omega), unhyphened (by omega), braced]
      exact inside
    · have spelled := (urn_eq_some_iff chars id).mp read
      have length : chars.length = 45 := by
        rw [long _ spelled, List.length_append, length_chars]
        rfl
      have unbraced : unbraced? chars = none := by
        rw [Option.eq_none_iff_forall_ne_some]
        intro inner braced
        rw [(unbraced?_eq_some_iff chars inner).mp braced] at spelled
        cases spelled
      obtain ⟨inner, labelled, inside⟩ := Option.bind_eq_some_iff.mp read
      rw [ofChars?, undigited (by omega), unhyphened (by omega), unbraced, labelled]
      exact inside

theorem ofText?_eq_some_iff (text : String) (id : Uuid) :
    ofText? text = some id ↔ text.toList.map Char.toLower ∈ id.spellings :=
  ofChars?_eq_some_iff text.toList id

/-! ## The canonical text -/

theorem map_toLower_digits (id : Uuid) : id.digits.map Char.toLower = id.digits := by
  have lower : ∀ digit < 16, (hexChar digit).toLower = hexChar digit := by decide
  have same : ∀ char ∈ id.digits, char.toLower = char := by
    intro char inside
    obtain ⟨digit, small, rfl⟩ := mem_hexDigits 32 _ char inside
    exact lower digit small
  rw [List.map_congr_left same, List.map_id']

theorem map_toLower_chars (id : Uuid) : id.chars.map Char.toLower = id.chars := by
  have hyphen : '-'.toLower = '-' := by decide
  simp only [chars, hyphenate, List.map_append, List.map_cons, List.map_take, List.map_drop,
    map_toLower_digits, hyphen]

@[simp] theorem ofText?_text (id : Uuid) : ofText? id.text = some id := by
  rw [ofText?_eq_some_iff, text, String.toList_ofList, map_toLower_chars]
  simp [spellings]

theorem text_injective (id other : Uuid) (same : id.text = other.text) : id = other := by
  have read := ofText?_text id
  rw [same, ofText?_text] at read
  exact (Option.some.inj read).symm

/-- Lower-case digits in five groups, with hyphens between them. -/
def Canonical (text : String) : Prop :=
  ∃ a b c d e, Grouped a b c d e ∧
    text.toList = a ++ '-' :: b ++ '-' :: c ++ '-' :: d ++ '-' :: e ∧
    ∀ char ∈ a ++ b ++ c ++ d ++ e, char ∈ "0123456789abcdef".toList

theorem canonical_text (id : Uuid) : Canonical id.text := by
  have listed : ∀ digit < 16, hexChar digit ∈ "0123456789abcdef".toList := by decide
  obtain ⟨a, b, c, d, e, grouped, digits⟩ := exists_grouped id.digits id.length_digits
  refine ⟨a, b, c, d, e, grouped, ?_, ?_⟩
  · rw [text, String.toList_ofList, chars, digits, grouped.hyphenate]
  · rw [← digits]
    intro char inside
    obtain ⟨digit, small, rfl⟩ := mem_hexDigits 32 _ char inside
    exact listed digit small

end Gatehouse.Uuid

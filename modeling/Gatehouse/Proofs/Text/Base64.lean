import Gatehouse.Text.Base64
import Gatehouse.Text.Blank

/-!
# Base64 has one text for each byte list

The reader takes exactly what the writer produces: `decode_encode` reads every
written text back, and `eq_encode_of_decode` says that a text that is read at
all is the written form of what was read.
-/

set_option autoImplicit false

namespace Gatehouse.Base64

/-! ## The alphabet -/

theorem char_le_iff (low high : Char) : low ≤ high ↔ low.toNat ≤ high.toNat := by
  rw [Char.le_def, UInt32.le_iff_toNat_le]
  rfl

theorem Alphabet.value?_sound (alphabet : Alphabet) (char : Char) (value : Nat)
    (found : alphabet.value? char = some value) :
    value < 64 ∧ alphabet.char value = char := by
  unfold Alphabet.value? at found
  simp only [char_le_iff] at found
  split at found
  · rename_i upper
    cases Option.some.inj found
    have bounds : 65 ≤ char.toNat ∧ char.toNat ≤ 90 := upper
    refine ⟨by omega, ?_⟩
    have below : char.toNat - 65 < 26 := by omega
    have restored : 65 + (char.toNat - 65) = char.toNat := by omega
    simp only [Alphabet.char, if_pos below, restored, Char.ofNat_toNat]
  split at found
  · rename_i lower
    cases Option.some.inj found
    have bounds : 97 ≤ char.toNat ∧ char.toNat ≤ 122 := lower
    refine ⟨by omega, ?_⟩
    have notUpper : ¬ char.toNat - 97 + 26 < 26 := by omega
    have below : char.toNat - 97 + 26 < 52 := by omega
    have restored : 97 + (char.toNat - 97 + 26 - 26) = char.toNat := by omega
    simp only [Alphabet.char, if_neg notUpper, if_pos below, restored, Char.ofNat_toNat]
  split at found
  · rename_i digit
    cases Option.some.inj found
    have bounds : 48 ≤ char.toNat ∧ char.toNat ≤ 57 := digit
    refine ⟨by omega, ?_⟩
    have notUpper : ¬ char.toNat - 48 + 52 < 26 := by omega
    have notLower : ¬ char.toNat - 48 + 52 < 52 := by omega
    have below : char.toNat - 48 + 52 < 62 := by omega
    have restored : 48 + (char.toNat - 48 + 52 - 52) = char.toNat := by omega
    simp only [Alphabet.char, if_neg notUpper, if_neg notLower, if_pos below, restored,
      Char.ofNat_toNat]
  split at found
  · rename_i last
    cases Option.some.inj found
    exact ⟨by decide, last.symm⟩
  split at found
  · rename_i last
    cases Option.some.inj found
    exact ⟨by decide, last.symm⟩
  · cases found

theorem Alphabet.value?_char (alphabet : Alphabet) (value : Nat) (small : value < 64) :
    alphabet.value? (alphabet.char value) = some value := by
  revert value
  cases alphabet <;> decide

/-! ## Reading what was written -/

theorem decode_encode (alphabet : Alphabet) (data : List UInt8) :
    decode alphabet (encode alphabet data) = some data := by
  induction data using encode.induct with
  | case1 => rfl
  | case2 a =>
      have bound := a.toNat_lt
      simp only [encode, decode]
      rw [alphabet.value?_char _ (by omega), alphabet.value?_char _ (by omega)]
      have clean : a.toNat % 4 * 16 % 16 = 0 := by omega
      have byte : a.toNat / 4 * 4 + a.toNat % 4 * 16 / 16 = a.toNat := by omega
      simp only [Option.bind_eq_bind, Option.bind_some, clean, if_pos, byte, UInt8.ofNat_toNat]
  | case3 a b =>
      have boundA := a.toNat_lt
      have boundB := b.toNat_lt
      simp only [encode, decode]
      rw [alphabet.value?_char _ (by omega), alphabet.value?_char _ (by omega),
        alphabet.value?_char _ (by omega)]
      have clean : b.toNat % 16 * 4 % 4 = 0 := by omega
      have first : a.toNat / 4 * 4 + (a.toNat % 4 * 16 + b.toNat / 16) / 16 = a.toNat := by omega
      have second :
          (a.toNat % 4 * 16 + b.toNat / 16) % 16 * 16 + b.toNat % 16 * 4 / 4 = b.toNat := by
        omega
      simp only [Option.bind_eq_bind, Option.bind_some, clean, if_pos, first, second,
        UInt8.ofNat_toNat]
  | case4 a b c rest ih =>
      have boundA := a.toNat_lt
      have boundB := b.toNat_lt
      have boundC := c.toNat_lt
      simp only [encode, decode]
      rw [alphabet.value?_char _ (by omega), alphabet.value?_char _ (by omega),
        alphabet.value?_char _ (by omega), alphabet.value?_char _ (by omega), ih]
      have first : a.toNat / 4 * 4 + (a.toNat % 4 * 16 + b.toNat / 16) / 16 = a.toNat := by omega
      have second :
          (a.toNat % 4 * 16 + b.toNat / 16) % 16 * 16 + (b.toNat % 16 * 4 + c.toNat / 64) / 4 =
            b.toNat := by
        omega
      have third : (b.toNat % 16 * 4 + c.toNat / 64) % 4 * 64 + c.toNat % 64 = c.toNat := by omega
      simp only [Option.bind_eq_bind, Option.bind_some, first, second, third, UInt8.ofNat_toNat]

/-! ## Writing what was read -/

theorem toNat_firstByte (first second : Nat) (firstSmall : first < 64) (secondSmall : second < 64) :
    (UInt8.ofNat (first * 4 + second / 16)).toNat = first * 4 + second / 16 :=
  UInt8.toNat_ofNat_of_lt' (by show _ < 256; omega)

theorem toNat_secondByte (second third : Nat) (thirdSmall : third < 64) :
    (UInt8.ofNat (second % 16 * 16 + third / 4)).toNat = second % 16 * 16 + third / 4 :=
  UInt8.toNat_ofNat_of_lt' (by show _ < 256; omega)

theorem toNat_thirdByte (third fourth : Nat) (fourthSmall : fourth < 64) :
    (UInt8.ofNat (third % 4 * 64 + fourth)).toNat = third % 4 * 64 + fourth :=
  UInt8.toNat_ofNat_of_lt' (by show _ < 256; omega)

/-- A text that is read is the written form of what was read: no bit is lost or made up. -/
theorem eq_encode_of_decode (alphabet : Alphabet) (text : List Char) (data : List UInt8)
    (read : decode alphabet text = some data) :
    text = encode alphabet data := by
  induction text using decode.induct generalizing data with
  | case1 =>
      cases Option.some.inj read
      rfl
  | case2 => cases read
  | case3 p q =>
      simp only [decode, Option.bind_eq_bind, Option.bind_eq_some_iff] at read
      obtain ⟨first, firstRead, second, secondRead, read⟩ := read
      obtain ⟨firstSmall, firstChar⟩ := alphabet.value?_sound p first firstRead
      obtain ⟨secondSmall, secondChar⟩ := alphabet.value?_sound q second secondRead
      split at read
      · rename_i clean
        cases Option.some.inj read
        have byte := toNat_firstByte first second firstSmall secondSmall
        have high : (first * 4 + second / 16) / 4 = first := by omega
        have low : (first * 4 + second / 16) % 4 * 16 = second := by omega
        rw [encode, byte, high, low, firstChar, secondChar]
      · cases read
  | case4 p q r =>
      simp only [decode, Option.bind_eq_bind, Option.bind_eq_some_iff] at read
      obtain ⟨first, firstRead, second, secondRead, third, thirdRead, read⟩ := read
      obtain ⟨firstSmall, firstChar⟩ := alphabet.value?_sound p first firstRead
      obtain ⟨secondSmall, secondChar⟩ := alphabet.value?_sound q second secondRead
      obtain ⟨thirdSmall, thirdChar⟩ := alphabet.value?_sound r third thirdRead
      split at read
      · rename_i clean
        cases Option.some.inj read
        have byteA := toNat_firstByte first second firstSmall secondSmall
        have byteB := toNat_secondByte second third thirdSmall
        have high : (first * 4 + second / 16) / 4 = first := by omega
        have middle : (first * 4 + second / 16) % 4 * 16 + (second % 16 * 16 + third / 4) / 16 =
            second := by
          omega
        have low : (second % 16 * 16 + third / 4) % 16 * 4 = third := by omega
        rw [encode, byteA, byteB, high, middle, low, firstChar, secondChar, thirdChar]
      · cases read
  | case5 p q r s rest ih =>
      simp only [decode, Option.bind_eq_bind, Option.bind_eq_some_iff] at read
      obtain ⟨first, firstRead, second, secondRead, third, thirdRead, fourth, fourthRead, tail,
        tailRead, read⟩ := read
      obtain ⟨firstSmall, firstChar⟩ := alphabet.value?_sound p first firstRead
      obtain ⟨secondSmall, secondChar⟩ := alphabet.value?_sound q second secondRead
      obtain ⟨thirdSmall, thirdChar⟩ := alphabet.value?_sound r third thirdRead
      obtain ⟨fourthSmall, fourthChar⟩ := alphabet.value?_sound s fourth fourthRead
      cases Option.some.inj read
      have byteA := toNat_firstByte first second firstSmall secondSmall
      have byteB := toNat_secondByte second third thirdSmall
      have byteC := toNat_thirdByte third fourth fourthSmall
      have high : (first * 4 + second / 16) / 4 = first := by omega
      have upper : (first * 4 + second / 16) % 4 * 16 + (second % 16 * 16 + third / 4) / 16 =
          second := by
        omega
      have lower : (second % 16 * 16 + third / 4) % 16 * 4 + (third % 4 * 64 + fourth) / 64 =
          third := by
        omega
      have low : (third % 4 * 64 + fourth) % 64 = fourth := by omega
      rw [encode, byteA, byteB, byteC, high, upper, lower, low, firstChar, secondChar, thirdChar,
        fourthChar, ← ih tail tailRead]

/-! ## Which characters are written -/

theorem mem_encode (alphabet : Alphabet) (data : List UInt8) (char : Char)
    (member : char ∈ encode alphabet data) :
    ∃ value < 64, alphabet.char value = char := by
  induction data using encode.induct with
  | case1 => cases member
  | case2 a =>
      have bound := a.toNat_lt
      simp only [encode, List.mem_cons, List.not_mem_nil, or_false] at member
      rcases member with rfl | rfl <;> exact ⟨_, by omega, rfl⟩
  | case3 a b =>
      have boundA := a.toNat_lt
      have boundB := b.toNat_lt
      simp only [encode, List.mem_cons, List.not_mem_nil, or_false] at member
      rcases member with rfl | rfl | rfl <;> exact ⟨_, by omega, rfl⟩
  | case4 a b c rest ih =>
      have boundA := a.toNat_lt
      have boundB := b.toNat_lt
      have boundC := c.toNat_lt
      simp only [encode, List.mem_cons] at member
      rcases member with rfl | rfl | rfl | rfl | member
      · exact ⟨_, by omega, rfl⟩
      · exact ⟨_, by omega, rfl⟩
      · exact ⟨_, by omega, rfl⟩
      · exact ⟨_, by omega, rfl⟩
      · exact ih member

theorem Alphabet.char_solid (alphabet : Alphabet) (value : Nat) (small : value < 64) :
    alphabet.char value ≠ '.' ∧ Text.isBlank (alphabet.char value) = false := by
  revert value
  cases alphabet <;> decide

theorem encode_solid (alphabet : Alphabet) (data : List UInt8) (char : Char)
    (member : char ∈ encode alphabet data) :
    char ≠ '.' ∧ Text.isBlank char = false := by
  obtain ⟨value, small, rfl⟩ := mem_encode alphabet data char member
  exact alphabet.char_solid value small

theorem Alphabet.char_visible (alphabet : Alphabet) (value : Nat) (small : value < 64) :
    32 ≤ (alphabet.char value).toNat ∧ (alphabet.char value).toNat < 127 := by
  revert value
  cases alphabet <;> decide

theorem encode_visible (alphabet : Alphabet) (data : List UInt8) (char : Char)
    (member : char ∈ encode alphabet data) :
    32 ≤ char.toNat ∧ char.toNat < 127 := by
  obtain ⟨value, small, rfl⟩ := mem_encode alphabet data char member
  exact alphabet.char_visible value small

end Gatehouse.Base64

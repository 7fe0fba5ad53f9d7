import Gatehouse.Text.Bytes

/-!
# Texts as bytes, character by character

`utf8` encodes a list of characters one after the other, so that a text can be
taken apart where its characters are joined.  A character below 128 is one byte
of its own number, and the bytes of every other character are above that.
-/

set_option autoImplicit false

namespace Gatehouse.Text

def utf8 (chars : List Char) : List UInt8 :=
  chars.flatMap String.utf8EncodeChar

@[simp] theorem utf8_nil : utf8 [] = [] := rfl

@[simp] theorem utf8_cons (char : Char) (rest : List Char) :
    utf8 (char :: rest) = String.utf8EncodeChar char ++ utf8 rest := rfl

@[simp] theorem utf8_append (front back : List Char) :
    utf8 (front ++ back) = utf8 front ++ utf8 back :=
  List.flatMap_append

theorem bytes_eq_utf8 (text : String) : bytes text = utf8 text.toList := by
  have encoded : text.toByteArray = text.toList.utf8Encode := String.utf8Encode_toList.symm
  rw [bytes, encoded, utf8, List.utf8Encode]
  simp

theorem utf8EncodeChar_of_lt (char : Char) (small : char.toNat < 128) :
    String.utf8EncodeChar char = [UInt8.ofNat char.toNat] := by
  have low : char.val.toNat ≤ 0x7f := by
    have : char.toNat = char.val.toNat := rfl
    omega
  simp only [String.utf8EncodeChar, if_pos low]
  rfl

theorem utf8_of_basic (chars : List Char) (basic : ∀ char ∈ chars, char.toNat < 128) :
    utf8 chars = chars.map fun char => UInt8.ofNat char.toNat := by
  induction chars with
  | nil => rfl
  | cons char rest ih =>
      have small := basic char List.mem_cons_self
      have tail := ih fun other member => basic other (List.mem_cons_of_mem char member)
      rw [utf8_cons, utf8EncodeChar_of_lt char small, tail]
      rfl

theorem le_of_mem_utf8EncodeChar (char : Char) (large : 128 ≤ char.toNat) (byte : UInt8)
    (member : byte ∈ String.utf8EncodeChar char) :
    128 ≤ byte.toNat := by
  have same : char.toNat = char.val.toNat := rfl
  have high : ¬ char.val.toNat ≤ 0x7f := by omega
  have ofNat_le : ∀ value : Nat, 128 ≤ value → value < 256 → 128 ≤ (UInt8.ofNat value).toNat := by
    intro value least bound
    rwa [UInt8.toNat_ofNat_of_lt' bound]
  simp only [String.utf8EncodeChar, if_neg high] at member
  split at member
  · simp only [List.mem_cons, List.not_mem_nil, or_false] at member
    rcases member with rfl | rfl
    · exact ofNat_le _ (by omega) (by omega)
    · exact ofNat_le _ (by omega) (by omega)
  split at member
  · simp only [List.mem_cons, List.not_mem_nil, or_false] at member
    rcases member with rfl | rfl | rfl
    · exact ofNat_le _ (by omega) (by omega)
    · exact ofNat_le _ (by omega) (by omega)
    · exact ofNat_le _ (by omega) (by omega)
  · simp only [List.mem_cons, List.not_mem_nil, or_false] at member
    rcases member with rfl | rfl | rfl | rfl
    · exact ofNat_le _ (by omega) (by omega)
    · exact ofNat_le _ (by omega) (by omega)
    · exact ofNat_le _ (by omega) (by omega)
    · exact ofNat_le _ (by omega) (by omega)

end Gatehouse.Text

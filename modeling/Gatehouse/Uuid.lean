/-!
# Identifiers

A 128-bit identifier with one canonical text: lower-case hexadecimal in groups
of 8, 4, 4, 4 and 12 digits.  The reader also takes the digits without hyphens,
in braces, or after `urn:uuid:`.
-/

set_option autoImplicit false

namespace Gatehouse

structure Uuid where
  value : BitVec 128
  deriving DecidableEq, Repr, Hashable

namespace Uuid

/-- The lower-case character of a hexadecimal digit. -/
def hexChar (digit : Nat) : Char :=
  if digit < 10 then Char.ofNat (48 + digit) else Char.ofNat (87 + digit)

/-- The value of a hexadecimal digit in either case. -/
def hexValue? (char : Char) : Option Nat :=
  if '0' ≤ char ∧ char ≤ '9' then some (char.toNat - 48)
  else if 'a' ≤ char ∧ char ≤ 'f' then some (char.toNat - 87)
  else if 'A' ≤ char ∧ char ≤ 'F' then some (char.toNat - 55)
  else none

/-- The last `count` hexadecimal digits of a number. -/
def hexDigits : Nat → Nat → List Char
  | 0, _ => []
  | count + 1, value => hexDigits count (value / 16) ++ [hexChar (value % 16)]

def ofHexDigits? (chars : List Char) : Option Nat :=
  chars.foldlM (fun sofar char => (hexValue? char).map (sofar * 16 + ·)) 0

def digits (id : Uuid) : List Char :=
  hexDigits 32 id.value.toNat

/-- Hyphens after the eighth, twelfth, sixteenth and twentieth digit. -/
def hyphenate (digits : List Char) : List Char :=
  digits.take 8 ++ '-' :: (digits.drop 8).take 4 ++ '-' :: (digits.drop 12).take 4 ++
    '-' :: (digits.drop 16).take 4 ++ '-' :: digits.drop 20

def chars (id : Uuid) : List Char :=
  hyphenate id.digits

def text (id : Uuid) : String :=
  String.ofList id.chars

instance : ToString Uuid := ⟨text⟩

/-- Reads exactly thirty-two digits. -/
def ofDigits? (chars : List Char) : Option Uuid :=
  if chars.length = 32 then (ofHexDigits? chars).map fun value => ⟨BitVec.ofNat 128 value⟩
  else none

def ofHyphenated? (chars : List Char) : Option Uuid :=
  if chars.length = 36 ∧ chars[8]? = some '-' ∧ chars[13]? = some '-' ∧ chars[18]? = some '-' ∧
      chars[23]? = some '-' then
    ofDigits? (chars.take 8 ++ (chars.drop 9).take 4 ++ (chars.drop 14).take 4 ++
      (chars.drop 19).take 4 ++ chars.drop 24)
  else none

def unbraced? : List Char → Option (List Char)
  | '\x7b' :: rest =>
    if rest.getLast? = some '\x7d' then some rest.dropLast else none
  | _ => none

/-- The text after `urn:uuid:`, in any case. -/
def afterUrn? (chars : List Char) : Option (List Char) :=
  if (chars.take 9).map Char.toLower = "urn:uuid:".toList then some (chars.drop 9) else none

def ofChars? (chars : List Char) : Option Uuid :=
  match ofDigits? chars with
  | some id => some id
  | none =>
    match ofHyphenated? chars with
    | some id => some id
    | none =>
      match unbraced? chars with
      | some inner => ofHyphenated? inner
      | none =>
        match afterUrn? chars with
        | some inner => ofHyphenated? inner
        | none => none

def ofText? (text : String) : Option Uuid :=
  ofChars? text.toList

/-- A random identifier of version 4: the version and variant bits are set over two random
words. -/
def ofRandom (high low : UInt64) : Uuid :=
  let high := (high &&& 0xFFFFFFFFFFFF0FFF) ||| 0x4000
  let low := (low &&& 0x3FFFFFFFFFFFFFFF) ||| 0x8000000000000000
  ⟨BitVec.ofNat 128 (high.toNat * 18446744073709551616 + low.toNat)⟩

end Uuid

end Gatehouse

/-!
# Percent coding

Bytes as text in which a byte that may not stand for itself is written `%` and
two hexadecimal digits.  Decoding is lenient: a percent sign without two digits
after it stands for itself.  `decode_encode` says that nothing is lost as long as
the percent sign is always coded.
-/

set_option autoImplicit false

namespace Gatehouse.Text.Percent

def sign : UInt8 := 37

/-- The upper-case hexadecimal digit of a value below sixteen. -/
def hexDigit (value : UInt8) : UInt8 :=
  if value < 10 then 48 + value else 55 + value

/-- The value of a hexadecimal digit, in either case. -/
def hexValue? (byte : UInt8) : Option UInt8 :=
  if 48 ≤ byte ∧ byte ≤ 57 then some (byte - 48)
  else if 65 ≤ byte ∧ byte ≤ 70 then some (byte - 55)
  else if 97 ≤ byte ∧ byte ≤ 102 then some (byte - 87)
  else none

def encodeByte (kept : UInt8 → Bool) (byte : UInt8) : List UInt8 :=
  if kept byte then [byte] else [sign, hexDigit (byte / 16), hexDigit (byte % 16)]

/-- Codes every byte that is not kept. -/
def encode (kept : UInt8 → Bool) (data : List UInt8) : List UInt8 :=
  data.flatMap (encodeByte kept)

def pair? (high low : UInt8) : Option UInt8 :=
  match hexValue? high, hexValue? low with
  | some high, some low => some (high * 16 + low)
  | _, _ => none

def decode : List UInt8 → List UInt8
  | [] => []
  | [byte] => [byte]
  | [first, second] => [first, second]
  | first :: high :: low :: rest =>
    if first = sign then
      match pair? high low with
      | some byte => byte :: decode rest
      | none => first :: decode (high :: low :: rest)
    else first :: decode (high :: low :: rest)

theorem pair?_hexDigit (byte : UInt8) :
    pair? (hexDigit (byte / 16)) (hexDigit (byte % 16)) = some byte := by
  obtain ⟨value⟩ := byte
  revert value
  decide +kernel

theorem decode_sign (byte : UInt8) (rest : List UInt8) :
    decode (sign :: hexDigit (byte / 16) :: hexDigit (byte % 16) :: rest) =
      byte :: decode rest := by
  simp [decode, pair?_hexDigit]

theorem decode_cons {byte : UInt8} (plain : byte ≠ sign) (rest : List UInt8) :
    decode (byte :: rest) = byte :: decode rest := by
  match rest with
  | [] => rfl
  | [_] => rfl
  | _ :: _ :: _ => simp [decode, plain]

theorem decode_encode {kept : UInt8 → Bool} (coded : kept sign = false) (data : List UInt8) :
    decode (encode kept data) = data := by
  induction data with
  | nil => rfl
  | cons byte rest ih =>
    have ih : decode (List.flatMap (encodeByte kept) rest) = rest := ih
    by_cases keep : kept byte = true
    · have plain : byte ≠ sign := by
        rintro rfl
        simp [coded] at keep
      simp [encode, encodeByte, keep, decode_cons plain, ih]
    · simp [encode, encodeByte, keep, decode_sign, ih]

end Gatehouse.Text.Percent

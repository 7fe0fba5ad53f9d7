/-!
# Base64

Groups of three bytes as four characters, in the standard or the URL-safe
alphabet.  The reader takes unpadded text only and accepts nothing that the
writer does not produce: the bits that fall off the last group must be zero.
-/

set_option autoImplicit false

namespace Gatehouse.Base64

inductive Alphabet
  | standard
  | urlSafe
  deriving DecidableEq, Repr

def Alphabet.char (alphabet : Alphabet) (value : Nat) : Char :=
  if value < 26 then Char.ofNat (65 + value)
  else if value < 52 then Char.ofNat (97 + (value - 26))
  else if value < 62 then Char.ofNat (48 + (value - 52))
  else if value = 62 then
    match alphabet with
    | .standard => '+'
    | .urlSafe => '-'
  else
    match alphabet with
    | .standard => '/'
    | .urlSafe => '_'

def Alphabet.value? (alphabet : Alphabet) (char : Char) : Option Nat :=
  if 'A' ≤ char ∧ char ≤ 'Z' then some (char.toNat - 65)
  else if 'a' ≤ char ∧ char ≤ 'z' then some (char.toNat - 97 + 26)
  else if '0' ≤ char ∧ char ≤ '9' then some (char.toNat - 48 + 52)
  else if char = alphabet.char 62 then some 62
  else if char = alphabet.char 63 then some 63
  else none

def encode (alphabet : Alphabet) : List UInt8 → List Char
  | [] => []
  | [a] =>
    [alphabet.char (a.toNat / 4), alphabet.char (a.toNat % 4 * 16)]
  | [a, b] =>
    [alphabet.char (a.toNat / 4), alphabet.char (a.toNat % 4 * 16 + b.toNat / 16),
      alphabet.char (b.toNat % 16 * 4)]
  | a :: b :: c :: rest =>
    alphabet.char (a.toNat / 4) :: alphabet.char (a.toNat % 4 * 16 + b.toNat / 16) ::
      alphabet.char (b.toNat % 16 * 4 + c.toNat / 64) :: alphabet.char (c.toNat % 64) ::
      encode alphabet rest

/-- Reads unpadded text; a lone last character or a last group with bits left over is refused. -/
def decode (alphabet : Alphabet) : List Char → Option (List UInt8)
  | [] => some []
  | [_] => none
  | [p, q] => do
    let p ← alphabet.value? p
    let q ← alphabet.value? q
    if q % 16 = 0 then some [UInt8.ofNat (p * 4 + q / 16)] else none
  | [p, q, r] => do
    let p ← alphabet.value? p
    let q ← alphabet.value? q
    let r ← alphabet.value? r
    if r % 4 = 0 then
      some [UInt8.ofNat (p * 4 + q / 16), UInt8.ofNat (q % 16 * 16 + r / 4)]
    else none
  | p :: q :: r :: s :: rest => do
    let p ← alphabet.value? p
    let q ← alphabet.value? q
    let r ← alphabet.value? r
    let s ← alphabet.value? s
    let tail ← decode alphabet rest
    some (UInt8.ofNat (p * 4 + q / 16) :: UInt8.ofNat (q % 16 * 16 + r / 4) ::
      UInt8.ofNat (r % 4 * 64 + s) :: tail)

/-- Text of a byte list, filled up with `=` to a multiple of four characters. -/
def encodePadded (alphabet : Alphabet) (data : List UInt8) : List Char :=
  let text := encode alphabet data
  text ++ List.replicate ((4 - text.length % 4) % 4) '='

end Gatehouse.Base64

import Gatehouse.Text.Decimal
import Gatehouse.Uuid

/-!
# Internet addresses

Addresses of both versions, their canonical text and the texts they are read
from.  Four numbers with dots between them are an address of version 4; groups
of up to four hexadecimal digits with colons between them, of which one run may
be left out as `::` and the last two may be written as an address of version 4,
are one of version 6.
-/

set_option autoImplicit false

namespace Gatehouse

inductive Address
  | v4 (octets : List Nat)
  | v6 (groups : List Nat)
  deriving DecidableEq, Repr

namespace Address

/-! ## Reading -/

/-- A number of one to three digits below 256, without a needless zero in front. -/
def octet? (chars : List Char) : Option (Nat × List Char) :=
  let run := chars.takeWhile fun char => (Decimal.digit? char).isSome
  match Decimal.natural? run with
  | some value =>
    if run.length ≤ 3 ∧ value < 256 ∧ (run.length = 1 ∨ run.head? ≠ some '0') then
      some (value, chars.drop run.length)
    else none
  | none => none

def dotOctet? : List Char → Option (Nat × List Char)
  | '.' :: rest => octet? rest
  | _ => none

/-- Four octets, and what follows them. -/
def quad? (chars : List Char) : Option (List Nat × List Char) := do
  let (a, rest) ← octet? chars
  let (b, rest) ← dotOctet? rest
  let (c, rest) ← dotOctet? rest
  let (d, rest) ← dotOctet? rest
  some ([a, b, c, d], rest)

def group? (chars : List Char) : Option (Nat × List Char) :=
  let run := chars.takeWhile fun char => (Uuid.hexValue? char).isSome
  if run.isEmpty ∨ run.length > 4 then none
  else (Uuid.ofHexDigits? run).map fun value => (value, chars.drop run.length)

/-- What stands in front of every group but the first. -/
def afterColon? (first : Bool) : List Char → Option (List Char)
  | ':' :: rest => if first then some (':' :: rest) else some rest
  | chars => if first then some chars else none

/-- Groups as far as they go, at most `room` of them; whether the last two were written as four
octets, and what follows. -/
def groups (first : Bool) : Nat → List Char → List Nat × Bool × List Char
  | 0, chars => ([], false, chars)
  | room + 1, chars =>
    match afterColon? first chars with
    | none => ([], false, chars)
    | some inner =>
      let single :=
        match group? inner with
        | none => ([], false, chars)
        | some (group, rest) =>
          let (others, dotted, rest) := groups false room rest
          (group :: others, dotted, rest)
      if room = 0 then single
      else
        match quad? inner with
        | some ([a, b, c, d], rest) => ([a * 256 + b, c * 256 + d], true, rest)
        | _ => single

/-- Eight groups, or fewer around a `::` that stands for at least one. -/
def long? (chars : List Char) : Option (List Nat × List Char) :=
  let (front, dotted, rest) := groups true 8 chars
  if front.length = 8 then some (front, rest)
  else if dotted then none
  else
    match rest with
    | ':' :: ':' :: rest =>
      let (back, _, rest) := groups true (7 - front.length) rest
      some (front ++ List.replicate (8 - front.length - back.length) 0 ++ back, rest)
    | _ => none

/-- An address at the front, and what follows it. -/
def read? (chars : List Char) : Option (Address × List Char) :=
  match quad? chars with
  | some (octets, rest) => some (.v4 octets, rest)
  | none => (long? chars).map fun (groups, rest) => (.v6 groups, rest)

def ofChars? (chars : List Char) : Option Address :=
  match read? chars with
  | some (address, []) => some address
  | _ => none

def isPort (chars : List Char) : Bool :=
  match Decimal.natural? chars with
  | some port => decide (port < 65536)
  | none => false

/-- What follows the number of a zone, if one is given. -/
def afterZone? : List Char → Option (List Char)
  | '%' :: rest =>
    let run := rest.takeWhile fun char => (Decimal.digit? char).isSome
    match Decimal.natural? run with
    | some zone => if zone < 4294967296 then some (rest.drop run.length) else none
    | none => none
  | chars => some chars

/-- The address of an address with a port; one of version 6 stands in brackets. -/
def ofEndpoint? (text : String) : Option Address :=
  match text.toList with
  | '[' :: chars => do
    let (groups, rest) ← long? chars
    match ← afterZone? rest with
    | ']' :: ':' :: port => if isPort port then some (.v6 groups) else none
    | _ => none
  | chars => do
    let (octets, rest) ← quad? chars
    match rest with
    | ':' :: port => if isPort port then some (.v4 octets) else none
    | _ => none

/-! ## Writing -/

/-- The digits of a group without zeros in front. -/
def groupChars (group : Nat) : List Char :=
  Nat.toDigits 16 group

def zeroRun (groups : List Nat) : Nat :=
  (groups.takeWhile fun group => group == 0).length

/-- Start and length of the longest run of zeros; of equal ones the first. -/
def longestZeros (position : Nat) : List Nat → Nat × Nat
  | [] => (0, 0)
  | group :: rest =>
    let here := zeroRun (group :: rest)
    let (start, length) := longestZeros (position + 1) rest
    if here ≥ length then (position, here) else (start, length)

def joinGroups (groups : List Nat) : List Char :=
  List.intercalate [':'] (groups.map groupChars)

def quadText (octets : List Nat) : String :=
  String.intercalate "." (octets.map toString)

/-- The canonical text: the longest run of two or more zero groups is left out, and an address of
version 4 inside one of version 6 keeps its dots. -/
def text : Address → String
  | .v4 octets => quadText octets
  | .v6 [0, 0, 0, 0, 0, 0xffff, high, low] =>
    "::ffff:" ++ quadText [high / 256, high % 256, low / 256, low % 256]
  | .v6 groups =>
    let (start, length) := longestZeros 0 groups
    if length > 1 then
      String.ofList (joinGroups (groups.take start) ++ [':', ':'] ++
        joinGroups (groups.drop (start + length)))
    else String.ofList (joinGroups groups)

end Address

end Gatehouse

import Gatehouse.Text.Bytes

/-!
# JSON texts as far as they are well-formed

An `Outline` is what can be seen of a JSON text without knowing what it is for:
strings keep their escapes, numbers their digits.  Scanning never fails.  Where
the text stops being JSON the outline holds `broken`, or an array or object
that is not `closed`, so that a reader that walks the outline in order meets a
wrong shape or a broken text, whichever comes first.
-/

set_option autoImplicit false

namespace Gatehouse.Json

structure Numeral where
  negative : Bool
  whole : List Nat
  fraction : Option (List Nat)
  exponent : Option (Bool × List Nat)
  deriving DecidableEq, Repr

inductive Outline
  | null
  | bool (value : Bool)
  | number (numeral : Numeral)
  /-- The bytes between the quotes, escapes and all. -/
  | string (raw : List UInt8)
  | array (items : List Outline) (closed : Bool)
  | object (members : List (List UInt8 × Outline)) (closed : Bool)
  | broken
  deriving Inhabited, Repr

namespace Outline

def isBlank (byte : UInt8) : Bool :=
  byte == 0x20 || byte == 0x0A || byte == 0x0D || byte == 0x09

def skipBlanks (data : List UInt8) : List UInt8 :=
  data.dropWhile isBlank

def isDigit (byte : UInt8) : Bool :=
  48 ≤ byte && byte ≤ 57

def isHexDigit (byte : UInt8) : Bool :=
  isDigit byte || (97 ≤ byte && byte ≤ 102) || (65 ≤ byte && byte ≤ 70)

def digitRun (data : List UInt8) : List Nat × List UInt8 :=
  ((data.takeWhile isDigit).map fun byte => byte.toNat - 48, data.dropWhile isDigit)

/-- The bytes of a string after its opening quote, up to the closing one.  A control character or
an escape that JSON does not know breaks it. -/
def rawString (sofar : List UInt8) : List UInt8 → Option (List UInt8 × List UInt8)
  | [] => none
  | 0x22 :: rest => some (sofar.reverse, rest)
  | 0x5C :: 0x75 :: a :: b :: c :: d :: rest =>
    if isHexDigit a && isHexDigit b && isHexDigit c && isHexDigit d then
      rawString (d :: c :: b :: a :: 0x75 :: 0x5C :: sofar) rest
    else none
  | 0x5C :: letter :: rest =>
    if letter == 0x22 || letter == 0x5C || letter == 0x2F || letter == 0x62 || letter == 0x66 ||
        letter == 0x6E || letter == 0x72 || letter == 0x74 then
      rawString (letter :: 0x5C :: sofar) rest
    else none
  | byte :: rest =>
    if byte < 0x20 || byte == 0x5C then none else rawString (byte :: sofar) rest

/-- The exponent of a number, if one follows. -/
def exponentPart (data : List UInt8) : Option (Option (Bool × List Nat) × List UInt8) :=
  match data with
  | letter :: rest =>
    if letter == 0x65 || letter == 0x45 then
      let (negative, rest) :=
        match rest with
        | 0x2B :: rest => (false, rest)
        | 0x2D :: rest => (true, rest)
        | rest => (false, rest)
      match digitRun rest with
      | ([], _) => none
      | (digits, rest) => some (some (negative, digits), rest)
    else some (none, data)
  | [] => some (none, data)

/-- The fraction of a number, if one follows. -/
def fractionPart (data : List UInt8) : Option (Option (List Nat) × List UInt8) :=
  match data with
  | 0x2E :: rest =>
    match digitRun rest with
    | ([], _) => none
    | (digits, rest) => some (some digits, rest)
  | _ => some (none, data)

/-- A number without its sign; a zero in front stands alone. -/
def numeral (negative : Bool) (data : List UInt8) : Option (Numeral × List UInt8) :=
  match digitRun data with
  | ([], _) => none
  | (0 :: _ :: _, _) => none
  | (whole, rest) => do
    let (fraction, rest) ← fractionPart rest
    let (exponent, rest) ← exponentPart rest
    some (⟨negative, whole, fraction, exponent⟩, rest)

/-- What follows, if `word` comes first. -/
def afterWord? (word : List UInt8) (data : List UInt8) : Option (List UInt8) :=
  if data.take word.length = word then some (data.drop word.length) else none

/-- A scan gives what it saw and, if that was whole, the bytes after it. -/
abbrev Scan := Outline × Option (List UInt8)

def scalar {α : Type} (make : α → Outline) : Option (α × List UInt8) → Scan
  | some (value, rest) => (make value, some rest)
  | none => (.broken, none)

def word (value : Outline) (letters data : List UInt8) : Scan :=
  match afterWord? letters data with
  | some rest => (value, some rest)
  | none => (.broken, none)

mutual

def scan : Nat → List UInt8 → Scan
  | 0, _ => (.broken, none)
  | fuel + 1, data =>
    match skipBlanks data with
    | [] => (.broken, none)
    | first :: rest =>
      if first = 0x22 then scalar .string (rawString [] rest)
      else if first = 0x7B then
        match skipBlanks rest with
        | 0x7D :: rest => (.object [] true, some rest)
        | rest => scanMembers fuel [] rest
      else if first = 0x5B then
        match skipBlanks rest with
        | 0x5D :: rest => (.array [] true, some rest)
        | rest => scanItems fuel [] rest
      else if first = 0x2D then scalar .number (numeral true rest)
      else if isDigit first then scalar .number (numeral false (first :: rest))
      else if first = 0x6E then word .null [0x75, 0x6C, 0x6C] rest
      else if first = 0x74 then word (.bool true) [0x72, 0x75, 0x65] rest
      else if first = 0x66 then word (.bool false) [0x61, 0x6C, 0x73, 0x65] rest
      else (.broken, none)

/-- Scans the items of an array, of which at least one must follow. -/
def scanItems : Nat → List Outline → List UInt8 → Scan
  | 0, items, _ => (.array items.reverse false, none)
  | fuel + 1, items, data =>
    match scan fuel data with
    | (item, none) => (.array (item :: items).reverse false, none)
    | (item, some rest) =>
      match skipBlanks rest with
      | 0x5D :: rest => (.array (item :: items).reverse true, some rest)
      | 0x2C :: rest =>
        match skipBlanks rest with
        | 0x5D :: _ => (.array (item :: items).reverse false, none)
        | rest => scanItems fuel (item :: items) rest
      | _ => (.array (item :: items).reverse false, none)

/-- Scans the members of an object, of which at least one must follow. -/
def scanMembers : Nat → List (List UInt8 × Outline) → List UInt8 → Scan
  | 0, members, _ => (.object members.reverse false, none)
  | fuel + 1, members, data =>
    match skipBlanks data with
    | 0x22 :: rest =>
      match rawString [] rest with
      | none => (.object members.reverse false, none)
      | some (name, rest) =>
        match skipBlanks rest with
        | 0x3A :: rest =>
          match scan fuel rest with
          | (value, none) => (.object ((name, value) :: members).reverse false, none)
          | (value, some rest) =>
            match skipBlanks rest with
            | 0x7D :: rest => (.object ((name, value) :: members).reverse true, some rest)
            | 0x2C :: rest => scanMembers fuel ((name, value) :: members) rest
            | _ => (.object ((name, value) :: members).reverse false, none)
        | _ => (.object ((name, .broken) :: members).reverse false, none)
    | _ => (.object members.reverse false, none)

end

/-- A text's outline, and whether nothing but blanks follows the value. -/
structure Document where
  root : Outline
  ended : Bool

def Document.ofBytes (data : List UInt8) : Document :=
  match scan (2 * data.length + 1) data with
  | (root, some rest) => ⟨root, (skipBlanks rest).isEmpty⟩
  | (root, none) => ⟨root, false⟩

def whole : Outline → Bool
  | broken => false
  | array _ closed => closed
  | object _ closed => closed
  | _ => true

end Outline

/-! ## Strings -/

def hexByte (byte : UInt8) : Nat :=
  if byte ≤ 57 then byte.toNat - 48
  else if byte ≤ 70 then byte.toNat - 55
  else byte.toNat - 87

def hexFour (a b c d : UInt8) : Nat :=
  ((hexByte a * 16 + hexByte b) * 16 + hexByte c) * 16 + hexByte d

def escapedByte (letter : UInt8) : UInt8 :=
  if letter = 0x62 then 8
  else if letter = 0x66 then 12
  else if letter = 0x6E then 10
  else if letter = 0x72 then 13
  else if letter = 0x74 then 9
  else letter

/-- The bytes a raw string stands for.  Half of a surrogate pair on its own stands for nothing. -/
def unescape (sofar : List UInt8) : List UInt8 → Option (List UInt8)
  | [] => some sofar.reverse
  | 0x5C :: 0x75 :: a :: b :: c :: d :: rest =>
    let unit := hexFour a b c d
    if 0xDC00 ≤ unit ∧ unit ≤ 0xDFFF then none
    else if 0xD800 ≤ unit ∧ unit ≤ 0xDBFF then
      match rest with
      | 0x5C :: 0x75 :: e :: f :: g :: h :: rest =>
        let low := hexFour e f g h
        if 0xDC00 ≤ low ∧ low ≤ 0xDFFF then
          let char := Char.ofNat (0x10000 + (unit - 0xD800) * 0x400 + (low - 0xDC00))
          unescape ((String.utf8EncodeChar char).reverse ++ sofar) rest
        else none
      | _ => none
    else unescape ((String.utf8EncodeChar (Char.ofNat unit)).reverse ++ sofar) rest
  | 0x5C :: letter :: rest => unescape (escapedByte letter :: sofar) rest
  | byte :: rest => unescape (byte :: sofar) rest

/-- The text a raw string stands for, if it is one. -/
def rawText? (raw : List UInt8) : Option String :=
  (unescape [] raw).bind Text.ofBytes?

/-! ## Numbers -/

namespace Numeral

def ofDigits (digits : List Nat) : Nat :=
  digits.foldl (fun sofar digit => sofar * 10 + digit) 0

/-- The number is written as an integer; a negative zero is not one. -/
def integer? (numeral : Numeral) : Option Int :=
  match numeral.fraction, numeral.exponent with
  | none, none =>
    let magnitude := ofDigits numeral.whole
    if numeral.negative then
      if magnitude = 0 then none else some (-(magnitude : Int))
    else some magnitude
  | _, _ => none

def significand (numeral : Numeral) : Nat :=
  ofDigits (numeral.whole ++ numeral.fraction.getD [])

def scale (numeral : Numeral) : Int :=
  let exponent : Int :=
    match numeral.exponent with
    | some (true, digits) => -(ofDigits digits : Int)
    | some (false, digits) => ofDigits digits
    | none => 0
  exponent - ((numeral.fraction.getD []).length : Int)

/-- The least number that rounds to more than the greatest double. -/
def leastOverflow : Nat := Nat.pow 2 1024 - Nat.pow 2 970

/-- The number is too great for a double, by its digits before the point. -/
def overflows (numeral : Numeral) : Bool :=
  let digits := (numeral.whole ++ numeral.fraction.getD []).dropWhile fun digit => digit == 0
  let places := digits.length + numeral.scale
  !digits.isEmpty && (decide (400 < places) ||
    decide (leastOverflow ≤ ofDigits (digits.take places.toNat) * Nat.pow 10 numeral.scale.toNat))

end Numeral

end Gatehouse.Json

import Gatehouse.Config.Value

/-!
# TOML

Reads a TOML document into a configuration tree.  While a document is read its
tables remember how they came about, because a table may be written down only
once: by a header of its own, by the header of a table inside it, by a dotted
key, or as a value.
-/

set_option autoImplicit false

namespace Gatehouse.Config.Toml

/-! ## Lines and blanks -/

def isSpace (char : Char) : Bool :=
  char == ' ' || char == '\t'

def skipSpaces (chars : List Char) : List Char :=
  chars.dropWhile isSpace

def isCommentChar (char : Char) : Bool :=
  char == '\t' || (0x20 ≤ char.toNat && char.toNat != 0x7F)

/-- What follows a comment, if one starts here. -/
def skipComment (chars : List Char) : List Char :=
  match chars with
  | '#' :: rest => rest.dropWhile isCommentChar
  | _ => chars

/-- What follows a line break, if one starts here. -/
def lineBreak? : List Char → Option (List Char)
  | '\n' :: rest => some rest
  | '\r' :: '\n' :: rest => some rest
  | _ => none

/-- The end of a line: blanks, a comment, and a line break or the end. -/
def endOfLine? (chars : List Char) : Option (List Char) :=
  match skipComment (skipSpaces chars) with
  | [] => some []
  | chars => lineBreak? chars

/-- Blanks, comments and line breaks. -/
def skipLines : Nat → List Char → List Char
  | 0, chars => chars
  | fuel + 1, chars =>
    let chars := skipComment (skipSpaces chars)
    match lineBreak? chars with
    | some rest => skipLines fuel rest
    | none => chars

/-! ## Strings -/

/-- The character of a number, if it is one. -/
def scalar? (code : Nat) : Option Char :=
  if h : code.isValidChar then some (Char.ofNatAux code h) else none

def hexNumber? (chars : List Char) : Option Nat :=
  Uuid.ofHexDigits? chars

/-- The character after a backslash, and what follows it. -/
def escape? : List Char → Option (Char × List Char)
  | 'b' :: rest => some ('\x08', rest)
  | 't' :: rest => some ('\t', rest)
  | 'n' :: rest => some ('\n', rest)
  | 'f' :: rest => some ('\x0c', rest)
  | 'r' :: rest => some ('\r', rest)
  | '"' :: rest => some ('"', rest)
  | '\\' :: rest => some ('\\', rest)
  | 'u' :: rest =>
    if (rest.take 4).length = 4 then do
      let code ← hexNumber? (rest.take 4)
      let char ← scalar? code
      some (char, rest.drop 4)
    else none
  | 'U' :: rest =>
    if (rest.take 8).length = 8 then do
      let code ← hexNumber? (rest.take 8)
      let char ← scalar? code
      some (char, rest.drop 8)
    else none
  | _ => none

/-- A character that may stand for itself in a string on one line. -/
def isPlain (char : Char) : Bool :=
  char == '\t' || (0x20 ≤ char.toNat && char.toNat != 0x7F)

/-- A string in double quotes, after the first of them. -/
def basicString : Nat → List Char → List Char → Option (List Char × List Char)
  | 0, _, _ => none
  | _ + 1, _, [] => none
  | fuel + 1, sofar, char :: rest =>
    if char = '"' then some (sofar.reverse, rest)
    else if char = '\\' then
      match escape? rest with
      | some (char, rest) => basicString fuel (char :: sofar) rest
      | none => none
    else if isPlain char then basicString fuel (char :: sofar) rest
    else none

/-- A string in single quotes, after the first of them. -/
def literalString (sofar : List Char) : List Char → Option (List Char × List Char)
  | [] => none
  | char :: rest =>
    if char = '\'' then some (sofar.reverse, rest)
    else if isPlain char then literalString (char :: sofar) rest
    else none

def quoteRun (quote : Char) (chars : List Char) : Nat :=
  (chars.takeWhile fun char => char == quote).length

/-- What follows a backslash at the end of a line: everything blank is passed over. -/
def lineContinuation? (chars : List Char) : Option (List Char) :=
  match lineBreak? (skipSpaces chars) with
  | some rest =>
    some (rest.dropWhile fun char => isSpace char || char == '\n' || char == '\r')
  | none => none

/-- A string over several lines, after its opening quotes; up to two quotes may stand before the
closing ones. -/
def longString (quote : Char) (escapes : Bool) :
    Nat → List Char → List Char → Option (List Char × List Char)
  | 0, _, _ => none
  | _ + 1, _, [] => none
  | fuel + 1, sofar, char :: rest =>
    if char = quote then
      let run := quoteRun quote (char :: rest)
      if run < 3 then
        longString quote escapes fuel (List.replicate run quote ++ sofar) ((char :: rest).drop run)
      else if run ≤ 5 then
        some ((List.replicate (run - 3) quote ++ sofar).reverse, (char :: rest).drop run)
      else none
    else if escapes && char == '\\' then
      match lineContinuation? rest with
      | some rest => longString quote escapes fuel sofar rest
      | none =>
        match escape? rest with
        | some (char, rest) => longString quote escapes fuel (char :: sofar) rest
        | none => none
    else
      match lineBreak? (char :: rest) with
      | some rest => longString quote escapes fuel ('\n' :: sofar) rest
      | none =>
        if isPlain char then longString quote escapes fuel (char :: sofar) rest else none

/-- A line break right after the opening quotes of a long string is dropped. -/
def afterFirstBreak (chars : List Char) : List Char :=
  (lineBreak? chars).getD chars

def string? (chars : List Char) : Option (String × List Char) :=
  let fuel := chars.length + 1
  let found :=
    match chars with
    | '"' :: '"' :: '"' :: rest => longString '"' true fuel [] (afterFirstBreak rest)
    | '"' :: rest => basicString fuel [] rest
    | '\'' :: '\'' :: '\'' :: rest => longString '\'' false fuel [] (afterFirstBreak rest)
    | '\'' :: rest => literalString [] rest
    | _ => none
  found.map fun (text, rest) => (String.ofList text, rest)

/-! ## Keys -/

def isBare (char : Char) : Bool :=
  char.isAlphanum || char == '_' || char == '-'

def simpleKey? (chars : List Char) : Option (String × List Char) :=
  match chars with
  | '"' :: rest =>
    (basicString (rest.length + 1) [] rest).map fun (text, rest) => (String.ofList text, rest)
  | '\'' :: rest => (literalString [] rest).map fun (text, rest) => (String.ofList text, rest)
  | _ =>
    match chars.takeWhile isBare with
    | [] => none
    | bare => some (String.ofList bare, chars.dropWhile isBare)

def key? : Nat → List Char → Option (List String × List Char)
  | 0, _ => none
  | fuel + 1, chars => do
    let (first, rest) ← simpleKey? (skipSpaces chars)
    match skipSpaces rest with
    | '.' :: rest =>
      let (others, rest) ← key? fuel rest
      some (first :: others, rest)
    | rest => some ([first], rest)

/-! ## Numbers and dates -/

def isWordChar (char : Char) : Bool :=
  char.isAlphanum || char == '_' || char == '+' || char == '-' || char == '.' || char == ':'

/-- Digits with single underscores between them, as plain digits. -/
def digitsOf? (isDigit : Char → Bool) : List Char → Option (List Char)
  | [] => none
  | [char] => if isDigit char then some [char] else none
  | char :: '_' :: rest =>
    if isDigit char then (digitsOf? isDigit rest).map (char :: ·) else none
  | char :: rest => if isDigit char then (digitsOf? isDigit rest).map (char :: ·) else none

/-- Decimal digits without a needless zero in front. -/
def decimalDigits? (chars : List Char) : Option (List Char) := do
  let digits ← digitsOf? Char.isDigit chars
  if digits.length > 1 ∧ digits.head? = some '0' then none else some digits

def splitSign : List Char → Bool × List Char
  | '-' :: rest => (true, rest)
  | '+' :: rest => (false, rest)
  | chars => (false, chars)

def inInt64 (value : Int) : Option Value :=
  if Decimal.minInt64 ≤ value ∧ value ≤ Decimal.maxInt64 then some (.integer value) else none

def based? (base : Nat) (chars : List Char) : Option Value := do
  let valid := fun char => ((Uuid.hexValue? char).map fun digit => decide (digit < base)).getD false
  let digits ← digitsOf? valid chars
  inInt64 (digits.foldl (fun sofar char => sofar * base + (Uuid.hexValue? char).getD 0) 0 : Nat)

def integer? (chars : List Char) : Option Value :=
  match chars with
  | '0' :: 'x' :: rest => based? 16 rest
  | '0' :: 'o' :: rest => based? 8 rest
  | '0' :: 'b' :: rest => based? 2 rest
  | _ => do
    let (negative, rest) := splitSign chars
    let digits ← decimalDigits? rest
    let magnitude ← Decimal.natural? digits
    inInt64 (if negative then -(magnitude : Int) else magnitude)

def exponent? (chars : List Char) : Option Int := do
  let (negative, rest) := splitSign chars
  let digits ← digitsOf? Char.isDigit rest
  let magnitude ← Decimal.naturalPower? digits
  some (if negative then -(magnitude : Int) else magnitude)

def float? (chars : List Char) : Option Value :=
  let (negative, rest) := splitSign chars
  if rest = ['i', 'n', 'f'] then some (.float (if negative then -1.0 / 0.0 else 1.0 / 0.0))
  else if rest = ['n', 'a', 'n'] then some (.float (0.0 / 0.0))
  else do
    let isMark := fun char => char == 'e' || char == 'E'
    let mantissa := rest.takeWhile fun char => !isMark char
    let power ←
      match rest.dropWhile fun char => !isMark char with
      | [] => some 0
      | _ :: digits => exponent? digits
    let whole ← decimalDigits? (mantissa.takeWhile fun char => char != '.')
    let fraction ←
      match mantissa.dropWhile fun char => char != '.' with
      | [] => some []
      | _ :: digits => digitsOf? Char.isDigit digits
    let significand ← Decimal.natural? (whole ++ fraction)
    let number := Shortest.ofScaled negative significand (power - fraction.length)
    if mantissa.length = rest.length ∧ fraction.isEmpty then none
    else if number.isInf then none
    else some (.float number)

def clock? (limit : Nat) (tens ones : Char) : Bool :=
  match Decimal.natural? [tens, ones] with
  | some value => decide (value < limit)
  | none => false

def isDate : List Char → Bool
  | [a, b, c, d, '-', m, n, '-', x, y] =>
    match Decimal.natural? [a, b, c, d], Decimal.natural? [m, n], Decimal.natural? [x, y] with
    | some year, some month, some day => (⟨year, month, day⟩ : Calendar.Date).valid
    | _, _, _ => false
  | _ => false

/-- A time of day, with or without a fraction. -/
def isTime : List Char → Bool
  | h :: i :: ':' :: m :: n :: ':' :: s :: t :: rest =>
    clock? 24 h i && clock? 60 m n && clock? 61 s t &&
      match rest with
      | [] => true
      | '.' :: digits => !digits.isEmpty && digits.all Char.isDigit
      | _ => false
  | _ => false

def isOffset : List Char → Bool
  | ['Z'] | ['z'] => true
  | [sign, h, i, ':', m, n] => (sign == '+' || sign == '-') && clock? 24 h i && clock? 60 m n
  | _ => false

/-- A time as it is printed: nanoseconds at most, without zeros at the end. -/
def printTime (time : List Char) : List Char :=
  let fraction := ((((time.drop 9).take 9).reverse.dropWhile fun char => char == '0')).reverse
  if fraction.isEmpty then time.take 8 else time.take 8 ++ '.' :: fraction

def printOffset (offset : List Char) : List Char :=
  match offset with
  | ['-', '0', '0', ':', '0', '0'] => "+00:00".toList
  | _ => offset.map Char.toUpper

/-- A time with or without an offset, as it is printed. -/
def offsetTime? (chars : List Char) : Option (List Char) :=
  let isMark := fun char => char == 'Z' || char == 'z' || char == '+' || char == '-'
  let time := chars.takeWhile fun char => !isMark char
  let offset := chars.dropWhile fun char => !isMark char
  if isTime time && (offset.isEmpty || isOffset offset) then
    some (printTime time ++ printOffset offset)
  else none

/-- A date, a time, or both, as a text. -/
def date? (chars : List Char) : Option Value :=
  if isDate chars then some (.text (String.ofList chars))
  else if isTime chars then some (.text (String.ofList (printTime chars)))
  else
    match chars.drop 10 with
    | mark :: rest =>
      if isDate (chars.take 10) && (mark == 'T' || mark == 't' || mark == ' ') then
        (offsetTime? rest).map fun time =>
          .text (String.ofList (chars.take 10 ++ 'T' :: time))
      else none
    | [] => none

/-- A value without quotes or brackets. -/
def bare? (chars : List Char) : Option Value :=
  if chars = "true".toList then some (.flag true)
  else if chars = "false".toList then some (.flag false)
  else
    match integer? chars with
    | some value => some value
    | none =>
      match float? chars with
      | some value => some value
      | none => date? chars

/-- The characters of a bare value; a blank may stand between a date and a time. -/
def bareRun (chars : List Char) : List Char :=
  let run := chars.takeWhile isWordChar
  match chars.drop run.length with
  | ' ' :: digit :: rest =>
    if isDate run && digit.isDigit then run ++ ' ' :: (digit :: rest).takeWhile isWordChar
    else run
  | _ => run

/-! ## Tables being read -/

inductive Origin
  | implied
  | header
  | dotted
  deriving DecidableEq

inductive Node
  | value (value : Value)
  | table (origin : Origin) (entries : List (String × Node))
  /-- Tables under a header in double brackets, the last one first. -/
  | tables (all : List (List (String × Node)))
  deriving Inhabited

abbrev Nodes := List (String × Node)

def setNode (key : String) (node : Node) : Nodes → Nodes
  | [] => [(key, node)]
  | (found, old) :: rest =>
    if found = key then (key, node) :: rest else (found, old) :: setNode key node rest

mutual

def Node.finish : Node → Value
  | .value value => value
  | .table _ entries => .table (finishAll entries)
  | .tables all => .list (finishTables all).reverse

def finishAll : Nodes → List (String × Value)
  | [] => []
  | (key, node) :: rest => (key, node.finish) :: finishAll rest

def finishTables : List Nodes → List Value
  | [] => []
  | entries :: rest => .table (finishAll entries) :: finishTables rest

end

def update (dotted : Bool) (change : Nodes → Option Nodes) : List String → Nodes → Option Nodes
  | [], entries => change entries
  | key :: rest, entries =>
    match entries.lookup key with
    | none => do
      let inner ← update dotted change rest []
      some (setNode key (.table (if dotted then .dotted else .implied) inner) entries)
    | some (.table origin inner) =>
      if dotted && origin == .header then none
      else do
        let inner ← update dotted change rest inner
        some (setNode key (.table origin inner) entries)
    | some (.tables (last :: others)) =>
      if dotted then none
      else do
        let last ← update dotted change rest last
        some (setNode key (.tables (last :: others)) entries)
    | some _ => none

def define (path : List String) (value : Value) (entries : Nodes) : Option Nodes :=
  match path.getLast? with
  | none => none
  | some key =>
    update true
      (fun entries =>
        match entries.lookup key with
        | some _ => none
        | none => some (entries ++ [(key, .value value)]))
      path.dropLast entries

def openTable (path : List String) (entries : Nodes) : Option Nodes :=
  match path.getLast? with
  | none => none
  | some key =>
    update false
      (fun entries =>
        match entries.lookup key with
        | none => some (entries ++ [(key, .table .header [])])
        | some (.table .implied inner) => some (setNode key (.table .header inner) entries)
        | some _ => none)
      path.dropLast entries

def openListed (path : List String) (entries : Nodes) : Option Nodes :=
  match path.getLast? with
  | none => none
  | some key =>
    update false
      (fun entries =>
        match entries.lookup key with
        | none => some (entries ++ [(key, .tables [[]])])
        | some (.tables all) => some (setNode key (.tables ([] :: all)) entries)
        | some _ => none)
      path.dropLast entries

/-! ## Values -/

mutual

def value? : Nat → List Char → Option (Value × List Char)
  | 0, _ => none
  | fuel + 1, chars =>
    match chars with
    | '[' :: rest => items? fuel [] (skipLines rest.length rest)
    | '\x7b' :: rest =>
      match skipSpaces rest with
      | '\x7d' :: rest => some (.table [], rest)
      | rest => pairs? fuel [] rest
    | '"' :: _ | '\'' :: _ => (string? chars).map fun (text, rest) => (.text text, rest)
    | _ =>
      let run := bareRun chars
      (bare? run).map fun value => (value, chars.drop run.length)

def items? : Nat → List Value → List Char → Option (Value × List Char)
  | 0, _, _ => none
  | fuel + 1, items, chars =>
    match chars with
    | ']' :: rest => some (.list items.reverse, rest)
    | _ => do
      let (item, rest) ← value? fuel chars
      match skipLines rest.length rest with
      | ',' :: rest => items? fuel (item :: items) (skipLines rest.length rest)
      | ']' :: rest => some (.list (item :: items).reverse, rest)
      | _ => none

def pairs? : Nat → Nodes → List Char → Option (Value × List Char)
  | 0, _, _ => none
  | fuel + 1, entries, chars => do
    let (path, rest) ← key? (chars.length + 1) chars
    match rest with
    | '=' :: rest =>
      let (value, rest) ← value? fuel (skipSpaces rest)
      let entries ← define path value entries
      match skipSpaces rest with
      | ',' :: rest => pairs? fuel entries rest
      | '\x7d' :: rest => some (.table (finishAll entries), rest)
      | _ => none
    | _ => none

end

/-! ## Documents -/

/-- A document being read: its tables, and the path of the open header. -/
structure State where
  root : Nodes
  path : List String

/-- One line that is not empty: a header or an entry. -/
def line? (fuel : Nat) (state : State) (chars : List Char) : Option (State × List Char) :=
  match chars with
  | '[' :: '[' :: rest => do
    let (path, rest) ← key? fuel rest
    match rest with
    | ']' :: ']' :: rest =>
      let root ← openListed path state.root
      let rest ← endOfLine? rest
      some (⟨root, path⟩, rest)
    | _ => none
  | '[' :: rest => do
    let (path, rest) ← key? fuel rest
    match rest with
    | ']' :: rest =>
      let root ← openTable path state.root
      let rest ← endOfLine? rest
      some (⟨root, path⟩, rest)
    | _ => none
  | _ => do
    let (key, rest) ← key? fuel chars
    match rest with
    | '=' :: rest =>
      let (value, rest) ← value? fuel (skipSpaces rest)
      let rest ← endOfLine? rest
      let root ← update false (define key value) state.path state.root
      some (⟨root, state.path⟩, rest)
    | _ => none

def lines? (size : Nat) : Nat → State → List Char → Option State
  | 0, _, _ => none
  | fuel + 1, state, chars =>
    match skipLines chars.length chars with
    | [] => some state
    | chars => do
      let (state, rest) ← line? size state chars
      lines? size fuel state rest

def parse (text : String) : Option Value := do
  let chars :=
    match text.toList with
    | '\uFEFF' :: rest => rest
    | chars => chars
  let size := 2 * chars.length + 2
  let state ← lines? size size ⟨[], []⟩ chars
  some (.table (finishAll state.root))

end Gatehouse.Config.Toml

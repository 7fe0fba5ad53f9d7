/-!
# Blank characters

The characters with the Unicode property `White_Space`, and trimming by it.
-/

set_option autoImplicit false

namespace Gatehouse.Text

/-- The character has the Unicode property `White_Space`. -/
def isBlank (char : Char) : Bool :=
  let code := char.toNat
  (9 ≤ code && code ≤ 13) || code == 0x20 || code == 0x85 || code == 0xA0 || code == 0x1680 ||
    (0x2000 ≤ code && code ≤ 0x200A) || code == 0x2028 || code == 0x2029 || code == 0x202F ||
    code == 0x205F || code == 0x3000

def trimStart (chars : List Char) : List Char :=
  chars.dropWhile isBlank

def trimEnd (chars : List Char) : List Char :=
  (chars.reverse.dropWhile isBlank).reverse

/-- The characters without the blanks at either end. -/
def trim (chars : List Char) : List Char :=
  trimEnd (trimStart chars)

/-- The text without the blanks at either end. -/
def trimmed (text : String) : String :=
  String.ofList (trim text.toList)

theorem trimStart_of_head {char : Char} {rest : List Char} (solid : isBlank char = false) :
    trimStart (char :: rest) = char :: rest := by
  simp [trimStart, solid]

end Gatehouse.Text

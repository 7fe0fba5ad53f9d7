import Gatehouse.Idna.Domain
import Gatehouse.Net.Address

/-!
# E-mail addresses

The rule for addresses: a local part, the last `@`, and a domain.  The domain is
a chain of labels or an address literal in brackets; where it is neither, its
form in basic characters has to be.
-/

set_option autoImplicit false

namespace Gatehouse.Email

/-- A letter in either case.  The long s and the Kelvin sign are variants of letters. -/
def isLetter (char : Char) : Bool :=
  ('a' ≤ char && char ≤ 'z') || ('A' ≤ char && char ≤ 'Z') || char == '\u017f' || char == '\u212a'

def isAlphanumeric (char : Char) : Bool :=
  isLetter char || ('0' ≤ char && char ≤ '9')

def localSigns : List Char :=
  ".!#$%&'*+/=?^_\x60\x7b|\x7d~-".toList

def isLocal (char : Char) : Bool :=
  isAlphanumeric char || localSigns.contains char

def maxLocal : Nat := 64
def maxDomain : Nat := 255
def maxLabel : Nat := 63

/-- Letters, digits and hyphens, with no hyphen at either end. -/
def isLabel (label : List Char) : Bool :=
  label.all (fun char => isAlphanumeric char || char == '-') &&
    label.head?.any isAlphanumeric && label.getLast?.any isAlphanumeric &&
    decide (label.length ≤ maxLabel)

def isLabels (domain : List Char) : Bool :=
  (domain.splitOn '.').all isLabel

def isLiteralChar (char : Char) : Bool :=
  (Uuid.hexValue? char).isSome || char == ':' || char == '.'

def endsWithLiteral (domain : List Char) : Bool :=
  match domain.reverse with
  | ']' :: rest =>
    let inside := rest.takeWhile isLiteralChar
    (rest.drop inside.length).head? == some '[' && (Address.ofChars? inside.reverse).isSome
  | _ => false

def isDomain (domain : List Char) : Bool :=
  isLabels domain || endsWithLiteral domain

/-- The characters before and after the last `@`. -/
def splitAt? (chars : List Char) : Option (List Char × List Char) :=
  let reversed := chars.reverse
  let domain := reversed.takeWhile fun char => char != '@'
  match reversed.drop domain.length with
  | [] => none
  | _ :: before => some (before.reverse, domain.reverse)

def valid (email : String) : Bool :=
  match splitAt? email.toList with
  | none => false
  | some (before, domain) =>
    decide (before.length ≤ maxLocal) && decide (domain.length ≤ maxDomain) &&
      !before.isEmpty && before.all isLocal &&
      (isDomain domain || (Idna.toAscii? domain).any isDomain)

end Gatehouse.Email

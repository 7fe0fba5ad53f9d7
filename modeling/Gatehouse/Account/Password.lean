import Gatehouse.Digest.Argon2
import Gatehouse.Failure
import Gatehouse.Random
import Gatehouse.Text.Base64
import Gatehouse.Text.Bytes
import Gatehouse.Text.Decimal

/-!
# Password hashes

A stored hash is a text of fields between dollar signs: the algorithm, its
version, its parameters, the salt and the digest.  Comparing a password goes by
what the text says, so that older hashes stay valid; new ones are made with a
fresh salt and the built-in parameters.
-/

set_option autoImplicit false

namespace Gatehouse.Password

/-! ## Fields -/

/-- The fields of a stored hash, as far as they are there. -/
structure Fields where
  algorithm : String
  version : Option Nat
  parameters : List (String × String)
  salt : Option String
  digest : Option (List UInt8)
  deriving DecidableEq, Repr

/-- A name: 1 to 32 lower-case letters, digits and hyphens. -/
def name? (chars : List Char) : Option String :=
  let valid := chars.all fun char =>
    ('a' ≤ char && char ≤ 'z') || ('0' ≤ char && char ≤ '9') || char == '-'
  if valid ∧ 1 ≤ chars.length ∧ chars.length ≤ 32 then some (String.ofList chars) else none

def isValueChar (char : Char) : Bool :=
  char.isAlphanum || char == '/' || char == '+' || char == '.' || char == '-'

/-- A value: at most 64 letters, digits and signs. -/
def value? (chars : List Char) : Option String :=
  if chars.all isValueChar ∧ chars.length ≤ 64 then some (String.ofList chars) else none

/-- The number of a value: digits without a needless zero in front, in 32 bits. -/
def number? (value : String) : Option Nat :=
  let chars := value.toList
  if chars.length > 1 ∧ chars.head? = some '0' then none
  else (Decimal.natural? chars).filter fun number => number < 4294967296

def parameter? (chars : List Char) : Option (String × String) := do
  match chars.splitOn '=' with
  | [name, value] =>
    let name ← name? name
    let value ← value? value
    some (name, value)
  | _ => none

def parameters? (chars : List Char) : Option (List (String × String)) :=
  if (String.ofList chars).utf8ByteSize > 127 then none
  else (chars.splitOn ',').mapM parameter?

/-- A salt: a value of at least four characters. -/
def salt? (chars : List Char) : Option String :=
  (value? chars).filter fun _ => 4 ≤ chars.length

def digest? (chars : List Char) : Option (List UInt8) :=
  (Base64.decode .standard chars).filter fun data => 10 ≤ data.length && data.length ≤ 64

/-- Takes the version off the front of the fields, if it is there. -/
def takeVersion? : List (List Char) → Option (Option Nat × List (List Char))
  | ('v' :: '=' :: version) :: rest =>
    if version.contains ',' then some (none, ('v' :: '=' :: version) :: rest)
    else do
      let value ← value? version
      let number ← number? value
      some (some number, rest)
  | fields => some (none, fields)

/-- Takes the parameters off the front of the fields, if they are there. -/
def takeParameters? : List (List Char) → Option (List (String × String) × List (List Char))
  | [] => some ([], [])
  | field :: rest =>
    if field.contains '=' then (parameters? field).map fun parameters => (parameters, rest)
    else some ([], field :: rest)

def fields? (text : String) : Option Fields := do
  match text.toList.splitOn '$' with
  | [] :: algorithm :: rest =>
    let algorithm ← name? algorithm
    let (version, rest) ← takeVersion? rest
    let (parameters, rest) ← takeParameters? rest
    match rest with
    | [] => some ⟨algorithm, version, parameters, none, none⟩
    | [salt] =>
      let salt ← salt? salt
      some ⟨algorithm, version, parameters, some salt, none⟩
    | [salt, digest] =>
      let salt ← salt? salt
      let digest ← digest? digest
      some ⟨algorithm, version, parameters, some salt, some digest⟩
    | _ => none
  | _ => none

/-! ## Parameters -/

def variant? (algorithm : String) : Option Digest.Argon2.Variant :=
  match algorithm with
  | "argon2d" => some .dependent
  | "argon2i" => some .independent
  | "argon2id" => some .hybrid
  | _ => none

def version? : Option Nat → Option Digest.Argon2.Version
  | none => some .v19
  | some 16 => some .v16
  | some 19 => some .v19
  | some _ => none

/-- The built-in parameters, for digests of a length. -/
def builtIn (length : Nat) : Digest.Argon2.Parameters :=
  ⟨.hybrid, .v19, 19456, 2, 1, length, []⟩

/-- Bytes behind a value, no more than `most`. -/
def bytes? (most : Nat) (value : String) : Option (List UInt8) :=
  (Base64.decode .standard value.toList).filter fun data => data.length ≤ most

/-- Sets one parameter.  The identifier of a key is checked but not used. -/
def setParameter? (p : Digest.Argon2.Parameters) (parameter : String × String) :
    Option Digest.Argon2.Parameters :=
  match parameter.1 with
  | "m" => (number? parameter.2).map fun memory => { p with memory := memory }
  | "t" => (number? parameter.2).map fun passes => { p with passes := passes }
  | "p" => (number? parameter.2).map fun lanes => { p with lanes := lanes }
  | "keyid" => (bytes? 8 parameter.2).map fun _ => p
  | "data" => (bytes? 32 parameter.2).map fun data => { p with data := data }
  | _ => none

def possible (p : Digest.Argon2.Parameters) : Bool :=
  decide (8 ≤ p.memory ∧ 8 * p.lanes ≤ p.memory ∧ 1 ≤ p.passes ∧ 1 ≤ p.lanes ∧
    p.lanes < 16777216)

def parametersOf? (fields : Fields) (length : Nat) : Option Digest.Argon2.Parameters := do
  let variant ← variant? fields.algorithm
  let version ← version? fields.version
  let set ← fields.parameters.foldlM setParameter? (builtIn length)
  if possible set then some { set with variant := variant, version := version } else none

/-- Bytes of a salt; fewer than eight are too few. -/
def saltBytes? (salt : String) : Option (List UInt8) :=
  (Base64.decode .standard salt.toList).filter fun data => 8 ≤ data.length

/-! ## Hashing and comparing -/

/-- Compares a password with a stored hash.  A hash without salt or digest matches none. -/
def compare (password stored : String) : Except Failure Bool :=
  match fields? stored with
  | none => .error (.passwordHashFormat "the text is not a stored hash")
  | some fields =>
    match fields.salt, fields.digest with
    | some salt, some digest =>
      match parametersOf? fields digest.length, saltBytes? salt with
      | some p, some salt => .ok (Digest.Argon2.hash p (Text.bytes password) salt == digest)
      | _, _ => .error (.passwordVerification "the stored hash cannot be made")
    | _, _ => .ok false

/-- A fresh salt of sixteen bytes. -/
def freshSalt : Draw (List UInt8) := do
  let first ← Draw.word
  let second ← Draw.word
  pure (Digest.littleEndian first ++ Digest.littleEndian second)

def digestLength : Nat := 32

def stored (salt digest : List UInt8) : String :=
  "$argon2id$v=19$m=19456,t=2,p=1$" ++ String.ofList (Base64.encode .standard salt) ++ "$" ++
    String.ofList (Base64.encode .standard digest)

def hash (password : String) : Draw String := do
  let salt ← freshSalt
  pure (stored salt (Digest.Argon2.hash (builtIn digestLength) (Text.bytes password) salt))

end Gatehouse.Password

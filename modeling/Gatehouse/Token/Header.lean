import Gatehouse.Json.Reading

/-!
# Token headers

The header names the signature algorithm.  Only one algorithm is ever used, but
a header that names another known one is told apart from one that cannot be
read.
-/

set_option autoImplicit false

namespace Gatehouse.Token

inductive Algorithm
  | hs256
  | hs384
  | hs512
  | es256
  | es384
  | rs256
  | rs384
  | rs512
  | ps256
  | ps384
  | ps512
  | edDSA
  deriving DecidableEq, Repr

namespace Algorithm

def all : List Algorithm :=
  [hs256, hs384, hs512, es256, es384, rs256, rs384, rs512, ps256, ps384, ps512, edDSA]

def name : Algorithm → String
  | hs256 => "HS256"
  | hs384 => "HS384"
  | hs512 => "HS512"
  | es256 => "ES256"
  | es384 => "ES384"
  | rs256 => "RS256"
  | rs384 => "RS384"
  | rs512 => "RS512"
  | ps256 => "PS256"
  | ps384 => "PS384"
  | ps512 => "PS512"
  | edDSA => "EdDSA"

def ofName? (text : String) : Option Algorithm :=
  all.find? fun algorithm => algorithm.name == text

def readName (word : String) : Except Json.ReadError Algorithm :=
  match ofName? word with
  | some algorithm => .ok algorithm
  | none => Json.shapeError ("unknown variant `" ++ word ++ "`")

/-- A name, or an object whose only member is a name with the value `null`. -/
def read : Json.Reader Algorithm
  | .string raw => do readName (← Json.readText (.string raw))
  | .object [(raw, .null)] true => do readName (← Json.readText (.string raw))
  | .object _ _ => .error .illFormed
  | found => Json.wrongType "enum Algorithm" found

end Algorithm

def readTexts : Json.Reader (List String)
  | .array items true => items.mapM Json.readText
  | .array _ false => .error .illFormed
  | found => Json.wrongType "a sequence" found

def readNothing : Json.Reader Unit
  | .null => .ok ()
  | found => Json.wrongType "null" found

def headerFields : List Json.Field :=
  [.required "alg" Algorithm.read] ++
    (["typ", "cty", "jku", "kid", "x5u", "x5t", "x5t#S256", "enc", "zip", "url", "nonce"].map
      fun name => .optionally name (Json.readOptional Json.readText)) ++
    (["x5c", "crit"].map fun name => .optionally name (Json.readOptional readTexts)) ++
    [.optionally "jwk" readNothing]

/-- Members without a meaning must be texts. -/
def checkExtra : List (List UInt8 × Json.Outline) → Except Json.ReadError Unit
  | [] => .ok ()
  | (raw, value) :: rest => do
    match Json.rawText? raw with
    | none => .error .illFormed
    | some name =>
      if headerFields.any fun field => field.name == name then checkExtra rest
      else
        let _ ← Json.readText value
        checkExtra rest

/-- Reads the algorithm out of a header, which must be an object. -/
def readHeader : Json.Reader Algorithm
  | .object members closed => do
    let found ← Json.collect "a header" headerFields (.object members closed)
    checkExtra members
    found.read "alg" Algorithm.read
  | found => Json.wrongType "a header" found

def headerText : String :=
  (Json.obj [("typ", .str "JWT"), ("alg", .str Algorithm.hs256.name)]).text

end Gatehouse.Token

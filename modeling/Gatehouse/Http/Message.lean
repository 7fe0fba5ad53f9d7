import Gatehouse.Http.Status
import Gatehouse.Net.Address
import Gatehouse.Text.Bytes

/-!
# Requests and responses

What comes in and what goes out.  Header names are in lower case; header values
are bytes.  A response carries JSON or nothing.
-/

set_option autoImplicit false

namespace Gatehouse.Http

/-- What is to be done; names are case-sensitive. -/
inductive Method
  | get
  | head
  | post
  | options
  | other (name : String)
  deriving DecidableEq, Repr

def Method.ofName (name : String) : Method :=
  if name = "GET" then .get
  else if name = "HEAD" then .head
  else if name = "POST" then .post
  else if name = "OPTIONS" then .options
  else .other name

structure Header where
  name : String
  value : List UInt8
  deriving DecidableEq, Repr

namespace Header

/-- A header as it is received, with its name in any case. -/
def received (name : String) (value : List UInt8) : Header :=
  ⟨name.toLower, value⟩

def text (name value : String) : Header :=
  ⟨name, Text.bytes value⟩

end Header

structure Request where
  method : Method
  target : String
  headers : List Header
  /-- Where the connection comes from, if that is known. -/
  peer : Option Address
  body : List UInt8
  deriving Repr

namespace Request

/-- The target without query and fragment. -/
def path (request : Request) : String :=
  String.ofList (request.target.toList.takeWhile fun char => char != '?' && char != '#')

/-- The values of a header, in order. -/
def values (request : Request) (name : String) : List (List UInt8) :=
  (request.headers.filter fun header => header.name == name).map Header.value

def first? (request : Request) (name : String) : Option (List UInt8) :=
  (request.values name).head?

end Request

structure Response where
  status : Nat
  headers : List Header
  body : Option Json

namespace Response

def bare (status : Nat) : Response :=
  ⟨status, [], none⟩

def json (status : Nat) (body : Json) : Response :=
  ⟨status, [.text "content-type" "application/json"], some body⟩

def success (status : Nat) (data : Json) : Response :=
  json status (.obj [("success", .bool true), ("data", data)])

def failed (failure : Failure) : Response :=
  json failure.kind.status failure.body

/-- The answer to an outcome; a crash looks like a failure of the server. -/
def ofOutcome {α : Type} (render : α → Response) : Outcome α → Response
  | .ok value => render value
  | .error fault => failed fault.asFailure

def withHeaders (response : Response) (headers : List Header) : Response :=
  { response with headers := response.headers ++ headers }

def withoutBody (response : Response) : Response :=
  { response with body := none }

end Response

end Gatehouse.Http

import Gatehouse.Http.Form
import Gatehouse.Http.Identity
import Gatehouse.Http.MediaType
import Gatehouse.Http.Message

/-!
# Reading request bodies

A body is a form written in JSON, announced as such and not too long.  The first
thing that is wrong is reported: the announcement, the length, the text, its
shape, and at last the rules of the form.
-/

set_option autoImplicit false

namespace Gatehouse.Http

def bodyLimit : Nat := 2097152

namespace Request

def announcesJson (request : Request) : Bool :=
  (do
    let value ← request.first? "content-type"
    let media ← MediaType.ofText? (← visibleText? value)
    some media.isJson).getD false

/-- What is wrong with a body whose text cannot be read. -/
def readingFailure : Json.ReadError → Failure
  | .illFormed => .bodySyntax Json.ReadError.illFormed.detail
  | .shape path detail => .bodyShape (Json.ReadError.shape path detail).detail

def form (φ : Type) [Form φ] (request : Request) : Except Failure φ :=
  if !request.announcesJson then .error .bodyNotJson
  else if bodyLimit < request.body.length then .error .bodyTooLarge
  else
    match (Json.readDocument Form.read request.body : Except Json.ReadError φ) with
    | .error error => .error (readingFailure error)
    | .ok form => Form.check form

end Request

end Gatehouse.Http

import Gatehouse.Config.Settings
import Gatehouse.Http.Message

/-!
# Requests from other origins

Which headers tell a browser that a page of another origin may read an answer.
A request for the options of a target asks for leave; it is answered here, for
every target alike.  Either every origin is allowed, or those of a list, which
may then send credentials.
-/

set_option autoImplicit false

namespace Gatehouse.Config.Cors

open Http

def anyOrigin (cors : Cors) : Bool :=
  cors.allowedOrigins.contains "*"

/-- The origin is on the list, to the letter. -/
def lists (cors : Cors) (origin : List UInt8) : Bool :=
  cors.allowedOrigins.any fun allowed => Text.bytes allowed == origin

def originHeaders (cors : Cors) (request : Request) : List Header :=
  if cors.anyOrigin then [.text "access-control-allow-origin" "*"]
  else
    .text "access-control-allow-credentials" "true" ::
      match request.first? "origin" with
      | some origin =>
        if cors.lists origin then [⟨"access-control-allow-origin", origin⟩] else []
      | none => []

def vary : Header :=
  .text "vary" "origin, access-control-request-method, access-control-request-headers"

def headers (cors : Cors) (request : Request) : List Header :=
  vary :: cors.originHeaders request

def preflight (cors : Cors) (request : Request) : Response :=
  (Response.bare 200).withHeaders (cors.headers request ++
    [.text "access-control-allow-methods" "GET,POST,OPTIONS",
      .text "access-control-allow-headers"
        (if cors.anyOrigin then "*" else "authorization,content-type"),
      .text "access-control-max-age" (toString cors.maxAgeSeconds)])

end Gatehouse.Config.Cors

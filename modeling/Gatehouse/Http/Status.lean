import Gatehouse.Failure
import Gatehouse.Json

/-!
# Failures on the wire

Which status a failure is answered with, and what of it the client is told.
The words of a failure on the server's side stay inside.
-/

set_option autoImplicit false

namespace Gatehouse

def Kind.status : Kind → Nat
  | .malformed | .invalidSignature | .expired | .userNotFound | .authentication => 401
  | .incorrectAnswer | .validation => 400
  | .conflict => 409
  | .tooManyRequests => 429
  | .unavailable => 503
  | .signing | .cache | .configuration | .serialization | .internal => 500

def Failure.publicMessage (failure : Failure) : String :=
  if failure.kind.status = 500 then "Internal server error" else failure.message

/-- The body of the answer; whether a retry may help is only said if so. -/
def Failure.body (failure : Failure) : Json :=
  .obj ([("error", .str failure.kind.code), ("message", .str failure.publicMessage)] ++
    if failure.kind.retryable then [("retryable", .bool true)] else [])

def Crash.asFailure (crash : Crash) : Failure :=
  .reported .internal ("Handler panicked: " ++ crash.message) none

def Fault.asFailure : Fault → Failure
  | .failure cause => cause
  | .crash cause => cause.asFailure

end Gatehouse

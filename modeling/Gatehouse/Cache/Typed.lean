import Gatehouse.Json.Reading
import Gatehouse.Service.Flow

/-!
# Typed values in a cache

A cache holds texts; a typed value is kept as its compact JSON and read back from
it.  A text that cannot be read is a failure of serialization, not an absent
value.
-/

set_option autoImplicit false

namespace Gatehouse.Cache

open Service

def ofStored {α : Type} (reader : Json.Reader α) (text : String) : Except Failure α :=
  match Json.readDocument reader (Text.bytes text) with
  | .ok value => .ok value
  | .error error => .error (.unreadableJson error.detail)

/-- The outcome of one call within a limit; no answer in time is told by `late`. -/
def ask {α : Type} (limit : Nat) (late : Failure) (call : CacheCall α) : Flow (Outcome α) :=
  .ask (.cache limit call) fun
    | .answered result => .done (Outcome.ofExcept result)
    | .late => .stop late

def getJson {α : Type} (limit : Nat) (late : Failure) (reader : Json.Reader α) (key : String) :
    Flow (Outcome (Option α)) :=
  (ask limit late (.get key)).andThen fun
    | none => .done (.ok none)
    | some text => .done (Outcome.ofExcept ((ofStored reader text).map some))

def setJson (limit : Nat) (late : Failure) (key : String) (value : Json) (lifetime : Nat) :
    Flow (Outcome Unit) :=
  ask limit late (.set key value.text lifetime)

end Gatehouse.Cache

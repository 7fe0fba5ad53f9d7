import Gatehouse.Cache.Key
import Gatehouse.Service.Flow

/-!
# The gate

Whether a client's request may pass: by its bucket in this process, or by a
counter in the shared cache.  A cache that fails or is late lets the request
pass.
-/

set_option autoImplicit false

namespace Gatehouse.Throttle

open Service

inductive Backend
  | memory
  | shared
  deriving DecidableEq, Repr

namespace Backend

def name : Backend → String
  | memory => "memory"
  | shared => "shared"

def ofName? (text : String) : Option Backend :=
  if text = "memory" then some memory
  else if text = "shared" then some shared
  else none

end Backend

/-- Length of a shared counting window in nanoseconds. -/
def windowLength : Nat := 60000000000

def passShared (capacity limit : Nat) (identity : String) : Flow Bool :=
  .ask (.cache limit (.increment (Cache.Key.rateLimit identity) capacity windowLength)) fun
    | .answered (.ok observed) => .done (decide (observed < capacity))
    | .answered (.error _) => .done true
    | .late => .done true

def pass (backend : Backend) (capacity limit : Nat) (identity : String) : Flow Bool :=
  match backend with
  | .memory => Flow.call (.spend identity)
  | .shared => passShared capacity limit identity

end Gatehouse.Throttle

import Gatehouse.Proofs.Service.Calls
import Gatehouse.Throttle.Gate

/-!
# The meter

Everything that the gate counts by: the buckets, and the counters of the cache
without its values.  What the gate decides about a client, and what it writes
down, is a function of the meter, the clock and the client's identity
(`run_pass`).  Calls other than the gate's own, and other than deleting from the
cache, leave the meter alone.
-/

set_option autoImplicit false

namespace Gatehouse

/-- The counters of a cache, without its values. -/
def Cache.Memory.counters (memory : Memory) : Memory :=
  { memory with values := .empty }

theorem Cache.Memory.prune_counters (memory : Memory) (now : Nat) :
    memory.counters.prune now = (memory.prune now).counters := by
  have same : (decide (memory.counters.windows.size > memory.counters.capacity) &&
      memory.counters.pruneDue now) =
    (decide (memory.windows.size > memory.capacity) && memory.pruneDue now) := rfl
  rw [prune, prune, same]
  split <;> rfl

theorem Cache.Memory.increment_counters (memory : Memory) (key : String) (cap length now : Nat) :
    memory.counters.increment key cap length now =
      ((memory.increment key cap length now).1,
        (memory.increment key cap length now).2.counters) :=
  Prod.ext rfl (prune_counters { memory with
    windows := memory.windows.put key (Window.counted (memory.current key length now) cap) } now)

namespace Service

variable {ν α β : Type}

structure Meter (ν : Type) where
  buckets : Throttle.Buckets ν
  counters : Cache.Memory

def World.meter (world : World ν) : Meter ν :=
  ⟨world.buckets, world.cache.counters⟩

/-- The call counts no request and drops no counter. -/
def Call.unmetered : {β : Type} → Call β → Bool
  | _, .cache _ (.increment _ _ _) => false
  | _, .cache _ (.delete _) => false
  | _, .spend _ => false
  | _, _ => true

theorem World.meter_answer [Throttle.Arithmetic ν] (surroundings : Surroundings) (call : Call β)
    (world : World ν) (unmetered : call.unmetered = true) :
    (world.answer surroundings call).2.meter = world.meter := by
  cases call with
  | spend identity => cases unmetered
  | store limit request =>
      refine see_under meter (fun _ _ => rfl) _ limit _ (fun _ => ?_)
        { world with storeCalls := world.storeCalls + 1 }
      cases request <;> rfl
  | cache limit request =>
      refine see_under meter (fun _ _ => rfl) _ limit _ (fun _ => ?_)
        { world with cacheCalls := world.cacheCalls + 1 }
      cases request with
      | increment key cap length => cases unmetered
      | delete key => cases unmetered
      | _ => rfl
  | standIn => exact world.see_standIn surroundings meter (fun _ => rfl) fun _ _ => rfl
  | hash password => rfl
  | compare password known => rfl
  | now => rfl
  | draw draw => rfl
  | freshId => rfl

end Service

/-! ## The gate -/

namespace Throttle

open Service

variable {ν : Type} [Arithmetic ν]

/-- What the gate decides about a client by the meter, and the meter after that. -/
def judge (backend : Backend) (capacity : Nat) (identity : String) (clock : Nat)
    (meter : Meter ν) : Bool × Meter ν :=
  match backend with
  | .memory =>
    let spent := meter.buckets.spend identity clock
    (spent.1, { meter with buckets := spent.2 })
  | .shared =>
    let counted := meter.counters.increment (Cache.Key.rateLimit identity) capacity windowLength
      clock
    (decide (counted.1 < capacity), { meter with counters := counted.2 })

theorem run_pass (surroundings : Surroundings) (healthy : surroundings.cache = .healthy)
    (backend : Backend) (capacity limit : Nat) (identity : String) (world : World ν) :
    let ran := (pass backend capacity limit identity).run surroundings world
    (ran.1, ran.2.meter) = judge backend capacity identity world.clock world.meter := by
  cases backend with
  | memory => rfl
  | shared =>
      have counted := world.cache.increment_counters (Cache.Key.rateLimit identity) capacity
        windowLength world.clock
      have answered := world.answer_cache surroundings healthy limit
        (.increment (Cache.Key.rateLimit identity) capacity windowLength)
      simp only [pass, passShared, Flow.run_ask, answered, judge, World.meter, counted]
      rfl

end Throttle

end Gatehouse

import Gatehouse.Http.Application
import Gatehouse.Proofs.Service.Turns

/-!
# What comes in

What a running service is confronted with, in its order: requests, each at a
moment of its own, and the ticks on which idle buckets are swept.  A moment is
what the three clocks show.  Requests are answered one after the other
(`respondAll`), or side by side, with the calls of all that are underway in any
order (`Crew.confrontAll`).
-/

set_option autoImplicit false

namespace Gatehouse

open Service

/-- What the clocks of a world show. -/
structure Service.Moment where
  clock : Nat
  wall : Instant
  valueClock : Nat
  deriving DecidableEq, Repr

def Service.World.atMoment {ν : Type} (world : World ν) (moment : Moment) : World ν :=
  { world with clock := moment.clock, wall := moment.wall, valueClock := moment.valueClock }

def Service.World.swept {ν : Type} (world : World ν) (clock : Nat) : World ν :=
  { world with buckets := (world.buckets.sweep clock).2 }

namespace Http

inductive Arrival
  | comes (moment : Moment) (request : Request)
  | tick (clock : Nat)

variable {ν : Type} [Throttle.Arithmetic ν]

/-! ## One after the other -/

/-- Answers every request that comes in, one after the other. -/
def respondAll (settings : Config.Settings) (surroundings : Surroundings) :
    List Arrival → World ν → List Response × World ν
  | [], world => ([], world)
  | .tick clock :: arrivals, world =>
    respondAll settings surroundings arrivals (world.swept clock)
  | .comes moment request :: arrivals, world =>
    let answered := (respond settings request).run surroundings (world.atMoment moment)
    let rest := respondAll settings surroundings arrivals answered.2
    (answered.1 :: rest.1, rest.2)

end Http

/-! ## Side by side -/

/-- Something comes in, or a request that is underway gets its next call answered. -/
inductive Http.Occurrence
  | arrival (arrival : Http.Arrival)
  | turn (moment : Moment) (number : Nat)

namespace Service.Crew

variable {ν : Type} [Throttle.Arithmetic ν] (settings : Config.Settings)
  (surroundings : Surroundings)

/-- Requests are numbered as they come in. -/
def confront (crew : Crew ν Http.Response) : Http.Occurrence → Crew ν Http.Response
  | .arrival (.tick clock) => ⟨crew.world.swept clock, crew.flows⟩
  | .arrival (.comes moment request) =>
    ⟨crew.world.atMoment moment, crew.flows ++ [Http.respond settings request]⟩
  | .turn moment number =>
    Crew.after surroundings ⟨crew.world.atMoment moment, crew.flows⟩ (.turn number)

def confrontAll (crew : Crew ν Http.Response) (occurrences : List Http.Occurrence) :
    Crew ν Http.Response :=
  occurrences.foldl (confront settings surroundings) crew

end Service.Crew

end Gatehouse

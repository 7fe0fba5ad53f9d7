import Gatehouse.Account.Password
import Gatehouse.Account.Registry
import Gatehouse.Cache.Memory
import Gatehouse.Service.Flow
import Gatehouse.Throttle.Bucket

/-!
# The world that answers

Everything the calls of a flow reach: the registry, the cache, the buckets, two
clocks and the sources of randomness.  Store and cache may be slow or failing,
as their `Condition` says call by call: a call first waits, which moves the
clock, and gives up at its limit; then it fails or does its work.  The
arithmetic of the buckets is a parameter of the world.
-/

set_option autoImplicit false

namespace Gatehouse.Service

structure Turn where
  /-- Milliseconds before the answer. -/
  delay : Nat
  /-- What the call fails with, if it does. -/
  failing : Option Failure
  deriving DecidableEq, Repr

/-- How a store or a cache is doing, by the number of calls before. -/
abbrev Condition := Nat → Turn

namespace Condition

def steady (delay : Nat) (failing : Option Failure) : Condition := fun _ => ⟨delay, failing⟩

def healthy : Condition := steady 0 none

end Condition

/-- Hashes passwords; what a call does may depend on the number of calls before it. -/
structure Hasher where
  hash : Nat → String → Draw (Except Failure String)
  compare : Nat → String → String → Except Failure Bool

/-- Keeps passwords readable behind a label; for trying things out. -/
def Hasher.plain (label : String) : Hasher :=
  ⟨fun _ password => pure (.ok (label ++ password)),
    fun _ password hash => .ok (label ++ password == hash)⟩

def Hasher.salted : Hasher :=
  ⟨fun _ password => do
      let hash ← Password.hash password
      pure (.ok hash),
    fun _ password hash => Password.compare password hash⟩

/-- The same hasher, with hashing failing. -/
def Hasher.failingHash (hasher : Hasher) (failure : Failure) : Hasher :=
  { hasher with hash := fun _ _ => pure (.error failure) }

/-- The same hasher, with comparing failing. -/
def Hasher.failingCompare (hasher : Hasher) (failure : Failure) : Hasher :=
  { hasher with compare := fun _ _ _ => .error failure }

def idsOf (words : Words) : Nat → Uuid := fun position =>
  Uuid.ofRandom (words (2 * position)) (words (2 * position + 1))

/-- What does not change while flows run. -/
structure Surroundings where
  store : Condition
  cache : Condition
  cacheHealth : Bool
  hasher : Hasher
  words : Words
  ids : Nat → Uuid

def standInPassword : String := "tollgate-unknown-user"

/-- Everything that changes, with buckets that count in `ν`. -/
structure World (ν : Type) where
  /-- Nanoseconds since the start. -/
  clock : Nat
  wall : Instant
  /-- The clock of the cached values, in nanoseconds. -/
  valueClock : Nat
  registry : Registry
  cache : Cache.Memory
  buckets : Throttle.Buckets ν
  standIn : Option String
  drawn : Nat
  issued : Nat
  hashed : Nat
  compared : Nat
  storeCalls : Nat
  cacheCalls : Nat

namespace World

variable {ν : Type}

def start (wall : Instant) (capacity : Nat) (buckets : Throttle.Buckets ν) : World ν :=
  { clock := 0, wall := wall, valueClock := 0, registry := .empty, cache := .empty capacity,
    buckets := buckets, standIn := none, drawn := 0, issued := 0, hashed := 0, compared := 0,
    storeCalls := 0, cacheCalls := 0 }

def wait (world : World ν) (milliseconds : Nat) : World ν :=
  { world with clock := world.clock + milliseconds * Cache.millisecond }

def under {α : Type} (turn : Turn) (limit : Nat) (world : World ν)
    (work : World ν → Except Failure α × World ν) : Reply α × World ν :=
  if turn.delay > limit then (.late, world.wait limit)
  else
    let world := world.wait turn.delay
    match turn.failing with
    | some failure => (.answered (.error failure), world)
    | none =>
      let (result, world) := work world
      (.answered result, world)

def freshId (surroundings : Surroundings) (world : World ν) : Uuid × World ν :=
  (surroundings.ids world.issued, { world with issued := world.issued + 1 })

def storeWork (surroundings : Surroundings) {α : Type} :
    StoreCall α → World ν → Except Failure α × World ν
  | .create new, world =>
    let (id, world) := world.freshId surroundings
    let (result, registry) := world.registry.create id world.wall new
    (result, { world with registry := registry })
  | .findByEmail email, world => (.ok (world.registry.findByEmail email), world)
  | .findById id, world => (.ok (world.registry.findById id), world)

def cacheWork (health : Bool) {α : Type} : CacheCall α → World ν → Except Failure α × World ν
  | .get key, world => (.ok (world.cache.get key world.valueClock), world)
  | .set key value lifetime, world =>
    (.ok (), { world with cache := world.cache.set key value lifetime world.valueClock })
  | .delete key, world => (.ok (), { world with cache := world.cache.delete key })
  | .take key, world =>
    let (value, cache) := world.cache.take key
    (.ok value, { world with cache := cache })
  | .exists key, world => (.ok (world.cache.exists? key world.valueClock), world)
  | .increment key cap length, world =>
    let (count, cache) := world.cache.increment key cap length world.clock
    (.ok count, { world with cache := cache })
  | .health, world => (.ok health, world)

def hash (surroundings : Surroundings) (password : String) (world : World ν) :
    Except Failure String × World ν :=
  let (result, drawn) :=
    (surroundings.hasher.hash world.hashed password).run surroundings.words world.drawn
  (result, { world with drawn := drawn, hashed := world.hashed + 1 })

def answer [Throttle.Arithmetic ν] (surroundings : Surroundings) {β : Type} :
    Call β → World ν → β × World ν
  | .store limit request, world =>
    { world with storeCalls := world.storeCalls + 1 }.under (surroundings.store world.storeCalls)
      limit (storeWork surroundings request)
  | .cache limit request, world =>
    { world with cacheCalls := world.cacheCalls + 1 }.under (surroundings.cache world.cacheCalls)
      limit (cacheWork surroundings.cacheHealth request)
  | .hash password, world => world.hash surroundings password
  | .compare password hash, world =>
    (surroundings.hasher.compare world.compared password hash,
      { world with compared := world.compared + 1 })
  | .standIn, world =>
    match world.standIn with
    | some hash => (.ok hash, world)
    | none =>
      match world.hash surroundings standInPassword with
      | (.ok hash, world) => (.ok hash, { world with standIn := some hash })
      | (.error failure, world) => (.error failure, world)
  | .now, world => (world.wall, world)
  | .draw draw, world =>
    let (value, drawn) := draw.run surroundings.words world.drawn
    (value, { world with drawn := drawn })
  | .freshId, world => world.freshId surroundings
  | .spend identity, world =>
    let (allowed, buckets) := world.buckets.spend identity world.clock
    (allowed, { world with buckets := buckets })

end World

/-- Runs a flow to its end, one call after the other. -/
def Flow.run {ν : Type} [Throttle.Arithmetic ν] {α : Type} (surroundings : Surroundings) :
    Flow α → World ν → α × World ν
  | .done value, world => (value, world)
  | .ask call next, world =>
    let (reply, world) := world.answer surroundings call
    (next reply).run surroundings world

/-- A service at work: what surrounds it, and how far it has come. -/
structure Site (ν : Type) where
  surroundings : Surroundings
  world : World ν

namespace Site

variable {ν : Type}

def run [Throttle.Arithmetic ν] {α : Type} (site : Site ν) (flow : Flow α) : α × Site ν :=
  let (value, world) := flow.run site.surroundings site.world
  (value, { site with world := world })

def advance (site : Site ν) (nanoseconds : Nat) : Site ν :=
  { site with world := { site.world with clock := site.world.clock + nanoseconds } }

/-- Lets cached values grow older by nanoseconds. -/
def ageValues (site : Site ν) (nanoseconds : Nat) : Site ν :=
  { site with world := { site.world with valueClock := site.world.valueClock + nanoseconds } }

def withBuckets (site : Site ν) (buckets : Throttle.Buckets ν) : Site ν :=
  { site with world := { site.world with buckets := buckets } }

def withCache (site : Site ν) (change : Cache.Memory → Cache.Memory) : Site ν :=
  { site with world := { site.world with cache := change site.world.cache } }

def withRegistry (site : Site ν) (change : Registry → Registry) : Site ν :=
  { site with world := { site.world with registry := change site.world.registry } }

end Site

end Gatehouse.Service

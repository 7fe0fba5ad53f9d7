import Gatehouse.Proofs.Cache.Counters
import Gatehouse.Proofs.Service.Runs
import Gatehouse.Proofs.Throttle.Visits
import Gatehouse.Throttle.Gate

/-!
# Runs at the shared gate

Requests of any clients at the gate, among other uses of the cache that counts
them.  What is decided for one client is decided by the counter of that client
alone (`decisionsOf_sharedRun`).
-/

set_option autoImplicit false

namespace Gatehouse

namespace Service

/-- The key that a call is about. -/
def CacheCall.key? : {α : Type} → CacheCall α → Option String
  | _, .get key => some key
  | _, .set key _ _ => some key
  | _, .delete key => some key
  | _, .take key => some key
  | _, .exists key => some key
  | _, .increment key _ _ => some key
  | _, .health => none

/-- The calls of other keys leave a counter alone, unless they prune it. -/
theorem World.pruned_cacheWork {ν : Type} (health : Bool) {α : Type} (call : CacheCall α)
    (world : World ν) (key : String) (avoids : call.key? ≠ some key) :
    Cache.Pruned world.clock (world.cache.windows.get? key)
      ((cacheWork health call world).2.cache.windows.get? key) := by
  cases call with
  | get other => exact Or.inl rfl
  | set other value lifetime => exact Or.inl rfl
  | take other => exact Or.inl rfl
  | «exists» other => exact Or.inl rfl
  | health => exact Or.inl rfl
  | delete other =>
      have differs : key ≠ other := fun same => avoids (by rw [same]; rfl)
      refine Or.inl ?_
      simp only [cacheWork, Cache.Memory.delete, Table.get?_erase, if_neg differs]
  | increment other cap length =>
      have differs : key ≠ other := fun same => avoids (by rw [same]; rfl)
      have counted := world.cache.pruned_increment other cap length world.clock key
      rw [if_neg differs] at counted
      exact counted

end Service

namespace Throttle

open Service

/-- A request at the gate, or another use of the cache, at an instant in nanoseconds. -/
inductive Errand : Type 1
  | enter (identity : String) (now : Nat)
  | use {α : Type} (call : CacheCall α) (now : Nat)

namespace Errand

def now : Errand → Nat
  | enter _ now => now
  | use _ now => now

/-- When this client comes to the gate on an errand, if it does. -/
def request? (identity : String) : Errand → Option Nat
  | enter client now => if client = identity then some now else none
  | use _ _ => none

/-- Nothing but requests at the gate touches this key. -/
def Avoids (key : String) : Errand → Prop
  | enter _ _ => True
  | use call _ => call.key? ≠ some key

end Errand

def requestsOf (identity : String) (errands : List Errand) : List Nat :=
  errands.filterMap (Errand.request? identity)

theorem requestsOf_ordered (identity : String) (errands : List Errand)
    (ordered : (errands.map Errand.now).Pairwise fun earlier later => earlier ≤ later) :
    (requestsOf identity errands).Pairwise fun earlier later => earlier ≤ later := by
  have dated : ∀ (errand : Errand) (now : Nat), errand.request? identity = some now →
      errand.now = now := by
    intro errand now asked
    cases errand with
    | enter client instant =>
        rw [Errand.request?] at asked
        split at asked
        · exact Option.some.inj asked
        · cases asked
    | use call instant => cases asked
  rw [requestsOf, List.pairwise_filterMap]
  refine (List.pairwise_map.mp ordered).imp ?_
  intro one other before now asked later askedLater
  rwa [dated one now asked, dated other later askedLater] at before

section

variable {ν : Type} [Arithmetic ν] (surroundings : Surroundings) (capacity limit : Nat)

/-- The errands one after the other, with the decisions on the requests among them. -/
def sharedRun : World ν → List Errand → List Decision × World ν
  | world, [] => ([], world)
  | world, .enter identity now :: rest =>
    let (allowed, world) :=
      (passShared capacity limit identity).run surroundings { world with clock := now }
    let (decisions, world) := sharedRun world rest
    (⟨⟨identity, now⟩, allowed⟩ :: decisions, world)
  | world, .use call now :: rest =>
    let (_, world) :=
      (Flow.call (.cache limit call)).run surroundings { world with clock := now }
    sharedRun world rest

/-! ## One client -/

/-- The decisions on the requests of a client with this counter, if it has one. -/
def countAll (held : Option Cache.Window) : List Nat → List (Int × Bool)
  | [] => []
  | now :: rest =>
    let window := Cache.live held windowLength now
    ((now : Int), decide (window.count < capacity)) ::
      countAll (some (Cache.Memory.Window.counted window capacity)) rest

variable (healthy : surroundings.cache = .healthy)

include healthy

theorem run_passShared (identity : String) (world : World ν) :
    ∃ later, (passShared capacity limit identity).run surroundings world =
        (decide ((Cache.live (world.cache.windows.get? (Cache.Key.rateLimit identity))
          windowLength world.clock).count < capacity), later) ∧
      later.cache = (world.cache.increment (Cache.Key.rateLimit identity) capacity windowLength
        world.clock).2 := by
  rw [passShared, Flow.run_ask, World.answer_cache surroundings healthy]
  exact ⟨_, rfl, rfl⟩

theorem decisionsOf_sharedRun (identity : String) (errands : List Errand) (world : World ν)
    (held : Option Cache.Window) (start : Nat)
    (pruned : Cache.Pruned start held
      (world.cache.windows.get? (Cache.Key.rateLimit identity)))
    (ordered : (start :: errands.map Errand.now).Pairwise fun earlier later => earlier ≤ later)
    (apart : ∀ errand ∈ errands, errand.Avoids (Cache.Key.rateLimit identity)) :
    decisionsOf identity (sharedRun surroundings capacity limit world errands).1 =
      countAll capacity held (requestsOf identity errands) := by
  induction errands generalizing world held start with
  | nil => rfl
  | cons errand rest ih =>
      rw [List.map_cons, List.pairwise_cons] at ordered
      have here := pruned.later start held _ errand.now (ordered.1 _ (by simp))
      have further : ∀ other ∈ rest, other.Avoids (Cache.Key.rateLimit identity) :=
        fun other inside => apart other (List.mem_cons_of_mem _ inside)
      cases errand with
      | enter client now =>
          obtain ⟨later, run, counted⟩ := run_passShared surroundings capacity limit healthy client
            { world with clock := now }
          have step := world.cache.pruned_increment (Cache.Key.rateLimit client) capacity
            windowLength now (Cache.Key.rateLimit identity)
          rw [← counted] at step
          by_cases own : client = identity
          · subst own
            rw [if_pos rfl, here.live_eq now held _ windowLength] at step
            have tail := ih later _ now step ordered.2 further
            simp only [sharedRun, run, here.live_eq now held _ windowLength, requestsOf,
              List.filterMap_cons, Errand.request?, if_true, countAll, decisionsOf,
              List.filter_cons, beq_self_eq_true, List.map_cons]
            exact congrArg _ tail
          · have differs : Cache.Key.rateLimit identity ≠ Cache.Key.rateLimit client :=
              fun same => own (Cache.Key.rateLimit_injective _ _ same).symm
            rw [if_neg differs] at step
            have tail := ih later held now (here.trans now held _ _ step) ordered.2 further
            simp only [sharedRun, run, requestsOf, List.filterMap_cons, Errand.request?,
              if_neg own, decisionsOf, List.filter_cons, beq_false_of_ne own, Bool.false_eq_true,
              if_false]
            exact tail
      | use call now =>
          have avoids : call.key? ≠ some (Cache.Key.rateLimit identity) :=
            apart (.use call now) List.mem_cons_self
          have step := World.pruned_cacheWork surroundings.cacheHealth call
            { world with clock := now, cacheCalls := world.cacheCalls + 1 }
            (Cache.Key.rateLimit identity) avoids
          have tail := ih _ held now (here.trans now held _ _ step) ordered.2 further
          rw [sharedRun, Flow.call, Flow.run_ask, World.answer_cache surroundings healthy]
          exact tail

end

end Throttle

end Gatehouse

import Gatehouse.Proofs.Captcha.Stages
import Gatehouse.Proofs.Service.Runs
import Gatehouse.Proofs.Table

/-!
# Challenges in a crowd

Any number of clients who ask for challenges and log in, side by side.  Their
flows change turns at every call, and every call may be answered in any way,
except that the cache reads and removes in one step and that no identifier is
given out twice.  A cache may fail, be late and lose what it holds at any time;
a value that was sent without an answer may arrive later, or never.
-/

set_option autoImplicit false

namespace Gatehouse.Captcha

open Service

inductive Party
  | issuing (rest : Flow (Outcome Challenge))
  | entering (input : Account.Login) (rest : Flow (Outcome Account.Admission))

inductive Party.Answered : Party → Deed → Party → Prop
  | issuing {β : Type} (call : Call β) (next : β → Flow (Outcome Challenge)) (reply : β) :
      Answered (.issuing (.ask call next)) (call.deed reply) (.issuing (next reply))
  | entering (input : Account.Login) {β : Type} (call : Call β)
      (next : β → Flow (Outcome Account.Admission)) (reply : β) :
      Answered (.entering input (.ask call next)) (call.deed reply) (.entering input (next reply))

/-- The values behind the keys, and those that were sent and may still arrive. -/
structure Shelf where
  held : String → Option String
  astray : List (String × String)

namespace Shelf

def put (shelf : Shelf) (key : String) (value : Option String) : Shelf :=
  { shelf with held := fun other => if other = key then value else shelf.held other }

def after (shelf : Shelf) : Deed → Shelf
  | .stored key value => shelf.put key (some value)
  | .sent key value => { shelf with astray := (key, value) :: shelf.astray }
  | .took key _ => shelf.put key none
  | .deleted key => shelf.put key none
  | _ => shelf

/-- How many copies of a key's value there are, held or on their way. -/
def copies (shelf : Shelf) (key : String) : Nat :=
  (shelf.held key).isSome.toNat + shelf.astray.countP fun entry => entry.1 == key

end Shelf

structure Crowd where
  shelf : Shelf
  parties : List Party
  /-- Who did what, in the order in which it was done. -/
  history : List (Nat × Deed)

namespace Crowd

def past (crowd : Crowd) (number : Nat) : List Deed :=
  (crowd.history.filter fun entry => entry.1 == number).map Prod.snd

/-- What the cache takes is what it holds, and a fresh identifier is a new one. -/
def Admits (crowd : Crowd) : Deed → Prop
  | .took key found => found = crowd.shelf.held key
  | .named id => ∀ number, (number, .named id) ∉ crowd.history
  | _ => True

inductive Step (settings : Account.Settings) (crowd : Crowd) : Crowd → Prop
  | issue :
      Step settings crowd
        { crowd with parties := crowd.parties ++ [.issuing (generate settings.captcha)] }
  | enter (input : Account.Login) :
      Step settings crowd
        { crowd with parties := crowd.parties ++ [.entering input (Account.login settings input)] }
  | answer (number : Nat) (party next : Party) (deed : Deed)
      (present : crowd.parties[number]? = some party) (answered : party.Answered deed next)
      (admitted : crowd.Admits deed) :
      Step settings crowd
        ⟨crowd.shelf.after deed, crowd.parties.set number next,
          crowd.history ++ [(number, deed)]⟩
  /-- A value runs out, or is pushed out of the cache. -/
  | lose (key : String) : Step settings crowd { crowd with shelf := crowd.shelf.put key none }
  | arrive (front back : List (String × String)) (key value : String)
      (astray : crowd.shelf.astray = front ++ (key, value) :: back) :
      Step settings crowd
        { crowd with shelf := ⟨(crowd.shelf.put key (some value)).held, front ++ back⟩ }

structure Start (crowd : Crowd) : Prop where
  parties : crowd.parties = []
  history : crowd.history = []
  held : ∀ id, crowd.shelf.held (Cache.Key.captchaSession id) = none
  astray : crowd.shelf.astray = []

inductive Reachable (settings : Account.Settings) : Crowd → Prop
  | start (crowd : Crowd) (start : Start crowd) : Reachable settings crowd
  | step (crowd next : Crowd) (reached : Reachable settings crowd)
      (step : Step settings crowd next) : Reachable settings next

end Crowd

/-! ## The cache in memory -/

/-- The values that the cache of a world holds, whether they have run out or not. -/
def held {ν : Type} (world : World ν) (key : String) : Option String :=
  (world.cache.values.get? key).map Cache.TimedValue.value

/-- Working on a call does to the cache in memory what its deed does to a shelf, and a key that is
taken gives what was held. -/
theorem held_cacheWork {ν : Type} (health : Bool) {α : Type} (request : CacheCall α)
    (world : World ν) (astray : List (String × String)) :
    let worked := World.cacheWork health request world
    held worked.2 = (Shelf.after ⟨held world, astray⟩ (request.deed (.answered worked.1))).held ∧
      ∀ key found, request.deed (.answered worked.1) = .took key found →
        found = held world key := by
  cases request with
  | set key value lifetime =>
      refine ⟨?_, by simp [World.cacheWork, CacheCall.deed]⟩
      funext other
      simp only [held, World.cacheWork, Cache.Memory.set, Table.get?_put, CacheCall.deed,
        Shelf.after, Shelf.put]
      split <;> rfl
  | delete key =>
      refine ⟨?_, by simp [World.cacheWork, CacheCall.deed]⟩
      funext other
      simp only [held, World.cacheWork, Cache.Memory.delete, Table.get?_erase, CacheCall.deed,
        Shelf.after, Shelf.put]
      split <;> rfl
  | take key =>
      refine ⟨?_, ?_⟩
      · funext other
        simp only [held, World.cacheWork, Cache.Memory.take, Table.get?_erase, CacheCall.deed,
          Shelf.after, Shelf.put]
        split <;> rfl
      · intro other found same
        cases same
        rfl
  | increment key cap length =>
      refine ⟨?_, by simp [CacheCall.deed]⟩
      have kept : ∀ memory : Cache.Memory, (memory.prune world.clock).values = memory.values := by
        intro memory
        rw [Cache.Memory.prune]
        split <;> rfl
      funext other
      simp only [held, World.cacheWork, Cache.Memory.increment, kept]
      rfl
  | get key => exact ⟨rfl, by simp [CacheCall.deed]⟩
  | «exists» key => exact ⟨rfl, by simp [CacheCall.deed]⟩
  | health => exact ⟨rfl, by simp [CacheCall.deed]⟩

theorem held_unanswered {α : Type} (request : CacheCall α) (reply : Reply α)
    (unanswered : ∀ value, reply ≠ .answered (.ok value)) (shelf : Shelf) :
    (shelf.after (request.deed reply)).held = shelf.held ∧
      ∀ key found, request.deed reply ≠ .took key found := by
  rcases reply with ⟨failure | value⟩ | _
  · cases request <;> exact ⟨rfl, by simp [CacheCall.deed]⟩
  · exact absurd rfl (unanswered value)
  · cases request <;> exact ⟨rfl, by simp [CacheCall.deed]⟩

theorem held_answer {ν : Type} [Throttle.Arithmetic ν] (surroundings : Surroundings) {α : Type}
    (limit : Nat) (request : CacheCall α) (world : World ν)
    (astray : List (String × String)) :
    let answered := world.answer surroundings (.cache limit request)
    held answered.2 = (Shelf.after ⟨held world, astray⟩ (request.deed answered.1)).held ∧
      ∀ key found, request.deed answered.1 = .took key found → found = held world key := by
  dsimp only
  rw [World.answer, World.under]
  split
  · obtain ⟨same, nothing⟩ := held_unanswered request .late (by simp) ⟨held world, astray⟩
    obtain ⟨clock, waited⟩ := World.wait_clock { world with cacheCalls := world.cacheCalls + 1 } limit
    rw [waited]
    exact ⟨same.symm, fun key found took => absurd took (nothing key found)⟩
  · obtain ⟨clock, waited⟩ := World.wait_clock { world with cacheCalls := world.cacheCalls + 1 }
      (surroundings.cache world.cacheCalls).delay
    rw [waited]
    cases failing : (surroundings.cache world.cacheCalls).failing with
    | some failure =>
        obtain ⟨same, nothing⟩ := held_unanswered request (.answered (.error failure)) (by simp)
          ⟨held world, astray⟩
        exact ⟨same.symm, fun key found took => absurd took (nothing key found)⟩
    | none =>
        exact held_cacheWork surroundings.cacheHealth request
          { world with clock := clock, cacheCalls := world.cacheCalls + 1 } astray

end Gatehouse.Captcha

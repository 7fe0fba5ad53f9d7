import Mathlib.Logic.Function.Basic
import Gatehouse.Proofs.Cache.Counters
import Gatehouse.Service.World

/-!
# Pruning is not seen

When closed counters are pruned depends on how many there are, on the last
pruning and on what is asked of other keys.  None of this is seen from outside:
every increment gives the count that a ledger gives which keeps all counters for
ever (`counts_eq_ledger`).  A key's counter in the cache is the one in the ledger,
or none once that one is closed (`Pruned`), and every call keeps this up.
-/

set_option autoImplicit false

namespace Gatehouse.Service

open Cache (Pruned Window live)

/-- A call of the cache, with what its two clocks show. -/
structure Use : Type 1 where
  {Result : Type}
  call : CacheCall Result
  now : Nat
  /-- The reading of the clock of the values. -/
  valueNow : Nat

/-- The count that an increment gave. -/
def CacheCall.countOf? : {α : Type} → CacheCall α → Except Failure α → Option Nat
  | _, .increment _ _ _, .ok count => some count
  | _, _, _ => none

/-! ## The cache -/

namespace World

variable {ν : Type} (health : Bool)

def carryOut (world : World ν) (use : Use) : Except Failure use.Result × World ν :=
  cacheWork health use.call { world with clock := use.now, valueClock := use.valueNow }

/-- What the calls of a run count, one after the other; only increments do. -/
def counts : World ν → List Use → List (Option Nat)
  | _, [] => []
  | world, use :: rest =>
    use.call.countOf? (world.carryOut health use).1 :: counts (world.carryOut health use).2 rest

end World

/-! ## The ledger -/

/-- Counters by their keys, each of them kept for ever. -/
abbrev Ledger := String → Option Window

namespace Ledger

/-- The count that an increment finds. -/
def count? {α : Type} (ledger : Ledger) (now : Nat) : CacheCall α → Option Nat
  | .increment key _ length => some (live (ledger key) length now).count
  | _ => none

/-- An increment counts in the window of its key; only deleting the key forgets its counter. -/
def after {α : Type} (ledger : Ledger) (now : Nat) : CacheCall α → Ledger
  | .increment key cap length =>
    Function.update ledger key
      (some (Cache.Memory.Window.counted (live (ledger key) length now) cap))
  | .delete key => Function.update ledger key none
  | _ => ledger

def counts : Ledger → List Use → List (Option Nat)
  | _, [] => []
  | ledger, use :: rest =>
    ledger.count? use.now use.call :: counts (ledger.after use.now use.call) rest

/-! ## One keeps up with the other -/

/-- The cache holds the counters of the ledger, but for closed ones. -/
def Kept (now : Nat) (ledger : Ledger) (memory : Cache.Memory) : Prop :=
  ∀ key, Pruned now (ledger key) (memory.windows.get? key)

namespace Kept

variable {now : Nat} {ledger : Ledger} {memory : Cache.Memory} (kept : Kept now ledger memory)

include kept

theorem later (later : Nat) (ordered : now ≤ later) : Kept later ledger memory := by
  intro key
  exact (kept key).later now _ _ later ordered

theorem increment (key : String) (cap length : Nat) :
    (memory.increment key cap length now).1 = (live (ledger key) length now).count ∧
      Kept now (ledger.after now (.increment key cap length))
        (memory.increment key cap length now).2 := by
  have same := (kept key).live_eq now _ _ length
  constructor
  · exact congrArg Window.count same
  · intro other
    have step := memory.pruned_increment key cap length now other
    by_cases own : other = key
    · subst own
      rw [if_pos rfl, same] at step
      simp only [after, Function.update_self]
      exact step
    · rw [if_neg own] at step
      simp only [after, Function.update_of_ne own]
      exact (kept other).trans now _ _ _ step

theorem delete (key : String) :
    Kept now (ledger.after now (.delete key)) (memory.delete key) := by
  intro other
  by_cases own : other = key
  · subst own
    simp only [after, Function.update_self, Cache.Memory.delete, Table.get?_erase, if_true]
    exact Or.inl rfl
  · simp only [after, Function.update_of_ne own, Cache.Memory.delete, Table.get?_erase,
      if_neg own]
    exact kept other

end Kept

/-- A call counts the same in both, and keeps them together. -/
theorem Kept.carryOut {ν : Type} (health : Bool) (ledger : Ledger) (world : World ν) (use : Use)
    (kept : Kept use.now ledger world.cache) :
    use.call.countOf? (world.carryOut health use).1 = ledger.count? use.now use.call ∧
      Kept use.now (ledger.after use.now use.call) (world.carryOut health use).2.cache := by
  obtain ⟨call, now, valueNow⟩ := use
  cases call with
  | increment key cap length =>
      obtain ⟨counted, next⟩ := kept.increment key cap length
      exact ⟨congrArg some counted, next⟩
  | delete key => exact ⟨rfl, kept.delete key⟩
  | get key => exact ⟨rfl, kept⟩
  | set key value lifetime => exact ⟨rfl, kept⟩
  | take key => exact ⟨rfl, kept⟩
  | «exists» key => exact ⟨rfl, kept⟩
  | health => exact ⟨rfl, kept⟩

theorem counts_of_kept {ν : Type} (health : Bool) (uses : List Use) (start : Nat)
    (ledger : Ledger) (world : World ν) (kept : Kept start ledger world.cache)
    (ordered : (start :: uses.map Use.now).Pairwise fun earlier later => earlier ≤ later) :
    world.counts health uses = ledger.counts uses := by
  induction uses generalizing start ledger world with
  | nil => rfl
  | cons use rest ih =>
      rw [List.map_cons, List.pairwise_cons] at ordered
      have here := kept.later use.now (ordered.1 use.now List.mem_cons_self)
      obtain ⟨counted, next⟩ := here.carryOut health ledger world use
      rw [World.counts, counts, counted, ih use.now _ _ next ordered.2]

end Ledger

/-- Whatever the capacity of the cache is and whatever has been pruned from it before: in a run of
any calls whose clock does not go back, every increment gives the count that it would give if each
counter were kept until its key is deleted. -/
theorem counts_eq_ledger {ν : Type} (health : Bool) (world : World ν) (uses : List Use)
    (ordered : (uses.map Use.now).Pairwise fun earlier later => earlier ≤ later) :
    world.counts health uses = Ledger.counts world.cache.windows.get? uses := by
  have start : Ledger.Kept 0 world.cache.windows.get? world.cache := fun key => Or.inl rfl
  exact Ledger.counts_of_kept health uses 0 _ world start
    (List.pairwise_cons.mpr ⟨fun _ _ => Nat.zero_le _, ordered⟩)

/-- A cache with room for no counter at all: the third call comes when the first window has just
closed and prunes it, the next ones open it anew, and the last finds a window without length. -/
theorem counts_eq_ledger_no_room :
    let world : World Rat := .start .epoch 0 ⟨1, 0, .empty⟩
    let uses : List Use :=
      [⟨.increment "ada" 5 1000000000, 0, 0⟩, ⟨.increment "bob" 5 60000000000, 500000000, 7⟩,
        ⟨.increment "bob" 5 60000000000, 1000000000, 3⟩,
        ⟨.increment "ada" 5 0, 1000000000, 0⟩, ⟨.delete "bob", 1000000000, 0⟩,
        ⟨.increment "bob" 5 0, 1000000001, 0⟩, ⟨.increment "ada" 5 60000000000, 1000000001, 0⟩]
    ((uses.map Use.now).Pairwise fun earlier later => earlier ≤ later) ∧
      world.counts true uses =
        [some 0, some 0, some 1, some 0, none, some 0, some 0] := by
  intro world uses
  have ordered : (uses.map Use.now).Pairwise fun earlier later => earlier ≤ later := by
    simp [uses]
  refine ⟨ordered, ?_⟩
  rw [counts_eq_ledger true world uses ordered]
  decide

end Gatehouse.Service

import Gatehouse.Proofs.Cache.Pruning
import Gatehouse.Proofs.Throttle.SharedRuns

/-!
# The gate by the ledger

A run at the shared gate decides as the ledger of its counters does, which keeps
them all for ever (`sharedRun_eq_ledgerRun`).  So what is said of decisions can
be said of the ledger, where there is no capacity and no pruning.
-/

set_option autoImplicit false

namespace Gatehouse

open Service Throttle

variable (capacity : Nat)

namespace Service.Ledger

/-- The ledger lets a client's request through. -/
def allows (ledger : Ledger) (identity : String) (now : Nat) : Bool :=
  decide ((Cache.live (ledger (Cache.Key.rateLimit identity)) windowLength now).count < capacity)

/-- The ledger after a client's request at the gate. -/
def entered (ledger : Ledger) (identity : String) (now : Nat) : Ledger :=
  ledger.after now (.increment (Cache.Key.rateLimit identity) capacity windowLength)

end Service.Ledger

namespace Throttle

/-- The decisions at a gate that keeps the ledger. -/
def ledgerRun : Ledger → List Errand → List Decision
  | _, [] => []
  | ledger, .enter identity now :: rest =>
    ⟨⟨identity, now⟩, ledger.allows capacity identity now⟩ ::
      ledgerRun (ledger.entered capacity identity now) rest
  | ledger, .use call now :: rest => ledgerRun (ledger.after now call) rest

section

variable {ν : Type} [Arithmetic ν] (surroundings : Surroundings) (limit : Nat)

theorem sharedRun_of_kept (healthy : surroundings.cache = .healthy) (errands : List Errand)
    (start : Nat) (ledger : Ledger) (world : World ν) (kept : Ledger.Kept start ledger world.cache)
    (ordered : (start :: errands.map Errand.now).Pairwise fun earlier later => earlier ≤ later) :
    (sharedRun surroundings capacity limit world errands).1 = ledgerRun capacity ledger errands := by
  induction errands generalizing start ledger world with
  | nil => rfl
  | cons errand rest ih =>
      rw [List.map_cons, List.pairwise_cons] at ordered
      have here := kept.later errand.now (ordered.1 errand.now List.mem_cons_self)
      cases errand with
      | enter identity now =>
          obtain ⟨later, run, counted⟩ := run_passShared surroundings capacity limit healthy identity
            { world with clock := now }
          obtain ⟨same, next⟩ := here.increment (Cache.Key.rateLimit identity) capacity windowLength
          have gated : Ledger.Kept now (ledger.entered capacity identity now) later.cache :=
            counted.symm ▸ next
          have tail := ih now _ later gated ordered.2
          have decided : decide ((Cache.live (world.cache.windows.get?
              (Cache.Key.rateLimit identity)) windowLength now).count < capacity) =
                ledger.allows capacity identity now :=
            congrArg (fun count => decide (count < capacity)) same
          rw [sharedRun, run, ledgerRun, ← decided]
          exact congrArg _ tail
      | use call now =>
          obtain ⟨-, next⟩ := here.carryOut surroundings.cacheHealth ledger
            { world with cacheCalls := world.cacheCalls + 1 } ⟨call, now, world.valueClock⟩
          have tail := ih now _ _ next ordered.2
          rw [sharedRun, Flow.call, Flow.run_ask, World.answer_cache surroundings healthy]
          exact tail

/-- At instants that do not go back, a run at the gate decides as the ledger of its counters. -/
theorem sharedRun_eq_ledgerRun (healthy : surroundings.cache = .healthy) (world : World ν)
    (errands : List Errand)
    (ordered : (errands.map Errand.now).Pairwise fun earlier later => earlier ≤ later) :
    (sharedRun surroundings capacity limit world errands).1 =
      ledgerRun capacity world.cache.windows.get? errands := by
  have start : Ledger.Kept 0 world.cache.windows.get? world.cache := fun key => Or.inl rfl
  exact sharedRun_of_kept capacity surroundings limit healthy errands 0 _ world start
    (List.pairwise_cons.mpr ⟨fun _ _ => Nat.zero_le _, ordered⟩)

end

end Throttle

end Gatehouse

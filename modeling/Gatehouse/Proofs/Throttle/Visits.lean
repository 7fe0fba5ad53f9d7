import Gatehouse.Proofs.Table
import Gatehouse.Throttle.Bucket

/-!
# Runs of requests

A run is a row of requests of any clients.  What it decides for one client is
decided by that client's own bucket: `decisionsOf_visits` takes the other
clients out of a run.
-/

set_option autoImplicit false

namespace Gatehouse.Throttle

/-- A request of a client at an instant, in nanoseconds. -/
structure Visit where
  identity : String
  now : Int
  deriving DecidableEq, Repr

structure Decision where
  visit : Visit
  allowed : Bool
  deriving DecidableEq, Repr

variable {α : Type} [Arithmetic α]

namespace Buckets

def visits (buckets : Buckets α) : List Visit → List Decision × Buckets α
  | [] => ([], buckets)
  | visit :: rest =>
    let (allowed, next) := buckets.spend visit.identity visit.now
    let (decisions, last) := next.visits rest
    (⟨visit, allowed⟩ :: decisions, last)

end Buckets

/-! ## One client -/

/-- The decision on a request of a client with this bucket, if it has one. -/
def spendOne (capacity : Nat) (bucket : Option (Bucket α)) (now : Int) : Bool × Bucket α :=
  match bucket with
  | none => (true, Bucket.first capacity now)
  | some bucket => bucket.spend capacity now

@[simp] theorem spend_lastRefill (capacity : Nat) (bucket : Bucket α) (now : Int) :
    (bucket.spend capacity now).2.lastRefill = now := by
  rw [Bucket.spend]
  split <;> rfl

theorem spendOne_lastRefill (capacity : Nat) (held : Option (Bucket α)) (now : Int) :
    (spendOne capacity held now).2.lastRefill = now := by
  cases held with
  | none => rfl
  | some bucket => exact spend_lastRefill capacity bucket now

def spendAll (capacity : Nat) (bucket : Option (Bucket α)) : List Int → List (Int × Bool)
  | [] => []
  | now :: rest =>
    (now, (spendOne capacity bucket now).1) ::
      spendAll capacity (some (spendOne capacity bucket now).2) rest

def instantsOf (identity : String) (calls : List Visit) : List Int :=
  (calls.filter fun visit => visit.identity == identity).map Visit.now

def decisionsOf (identity : String) (decisions : List Decision) : List (Int × Bool) :=
  (decisions.filter fun decision => decision.visit.identity == identity).map
    fun decision => (decision.visit.now, decision.allowed)

/-! ## One client in a run -/

namespace Buckets

theorem spend_allowed (buckets : Buckets α) (identity : String) (now : Int) :
    (buckets.spend identity now).1 =
      (spendOne buckets.capacity (buckets.clients.get? identity) now).1 := by
  rw [spend]
  cases buckets.clients.get? identity with
  | none => rfl
  | some bucket => rfl

@[simp] theorem spend_capacity (buckets : Buckets α) (identity : String) (now : Int) :
    (buckets.spend identity now).2.capacity = buckets.capacity := by
  rw [spend]
  cases buckets.clients.get? identity with
  | none => rfl
  | some bucket => rfl

theorem get?_spend (buckets : Buckets α) (identity : String) (now : Int) (other : String) :
    (buckets.spend identity now).2.clients.get? other =
      if other = identity then
        some (spendOne buckets.capacity (buckets.clients.get? identity) now).2
      else buckets.clients.get? other := by
  rw [spend]
  cases buckets.clients.get? identity with
  | none => exact Table.get?_put _ _ _ _
  | some bucket => exact Table.get?_put _ _ _ _

/-- A run decides for a client what its bucket alone would. -/
theorem decisionsOf_visits (identity : String) (calls : List Visit) (buckets : Buckets α) :
    decisionsOf identity (buckets.visits calls).1 =
      spendAll buckets.capacity (buckets.clients.get? identity) (instantsOf identity calls) := by
  induction calls generalizing buckets with
  | nil => rfl
  | cons visit rest ih =>
      have tail := ih (buckets.spend visit.identity visit.now).2
      rw [spend_capacity, get?_spend] at tail
      by_cases own : visit.identity = identity
      · subst own
        rw [if_pos rfl] at tail
        simp only [visits, decisionsOf, instantsOf, List.filter_cons, beq_self_eq_true, if_true,
          List.map_cons, spendAll, ← spend_allowed]
        exact congrArg _ tail
      · have differs : (visit.identity == identity) = false := beq_false_of_ne own
        rw [if_neg fun same => own same.symm] at tail
        simp only [visits, decisionsOf, instantsOf, List.filter_cons, differs, Bool.false_eq_true,
          if_false]
        exact tail

end Buckets

end Gatehouse.Throttle

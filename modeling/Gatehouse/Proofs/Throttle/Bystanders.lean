import Gatehouse.Proofs.Throttle.LedgerRuns
import Gatehouse.Proofs.Throttle.Sweeping

/-!
# Bystanders

What a limiter decides for one client does not depend on the others: take their
requests out of a run, and this client's are decided as before
(`bystanders_unseen`).  A bucket is the client's own.  At the shared gate the
others do move the client's counter, by making the cache prune, but that is not
seen in the ledger; and no identity spells out the key of another one.
-/

set_option autoImplicit false

namespace Gatehouse

open Service

namespace Throttle

def Decision.concerns (identity : String) (decision : Decision) : Bool :=
  decision.visit.identity == identity

/-! ## Buckets -/

/-- Not another client's request. -/
def Event.concerns (identity : String) : Event → Bool
  | .visit call => call.identity == identity
  | .sweep _ => true

/-- Two limiters that treat this client alike. -/
structure Buckets.Agree {α : Type} (identity : String) (one other : Buckets α) : Prop where
  capacity : one.capacity = other.capacity
  staleAfter : one.staleAfter = other.staleAfter
  bucket : one.clients.get? identity = other.clients.get? identity

namespace Buckets.Agree

variable {α : Type} {identity : String} {one other : Buckets α}
  (agree : Agree identity one other)

include agree

theorem sweep (now : Int) : Agree identity (one.sweep now).2 (other.sweep now).2 := by
  refine ⟨agree.capacity, agree.staleAfter, ?_⟩
  rw [get?_sweep, get?_sweep, agree.bucket, agree.staleAfter]

variable [Arithmetic α]

theorem visit (now : Int) :
    (one.spend identity now).1 = (other.spend identity now).1 ∧
      Agree identity (one.spend identity now).2 (other.spend identity now).2 := by
  constructor
  · rw [spend_allowed, spend_allowed, agree.capacity, agree.bucket]
  · refine ⟨by simp [agree.capacity], by simp [agree.staleAfter], ?_⟩
    rw [get?_spend, get?_spend, if_pos rfl, if_pos rfl, agree.capacity, agree.bucket]

theorem bystander (client : String) (apart : client ≠ identity) (now : Int) :
    Agree identity (one.spend client now).2 other := by
  refine ⟨by simp [agree.capacity], by simp [agree.staleAfter], ?_⟩
  rw [get?_spend, if_neg apart.symm, agree.bucket]

theorem decisions_eq (events : List Event) :
    (one.events events).1.filter (Decision.concerns identity) =
      (other.events (events.filter (Event.concerns identity))).1 := by
  induction events generalizing one other with
  | nil => rfl
  | cons event rest ih =>
      cases event with
      | visit call =>
          by_cases own : call.identity = identity
          · subst own
            obtain ⟨same, next⟩ := agree.visit call.now
            simp only [events, List.filter_cons, Decision.concerns, Event.concerns,
              beq_self_eq_true, if_true, same]
            exact congrArg _ (ih next)
          · have next := agree.bystander call.identity own call.now
            simp only [events, List.filter_cons, Decision.concerns, Event.concerns,
              beq_false_of_ne own, Bool.false_eq_true, if_false]
            exact ih next
      | sweep now =>
          simp only [events, List.filter_cons, Event.concerns, if_true]
          exact ih (agree.sweep now)

end Buckets.Agree

end Throttle

/-! ## Counters -/

theorem Service.Ledger.after_congr {α : Type} (one other : Ledger) (key : String)
    (same : one key = other key) (now : Nat) (call : CacheCall α) :
    one.after now call key = other.after now call key := by
  cases call with
  | increment counted cap length =>
      by_cases own : key = counted
      · subst own
        simp only [after, Function.update_self, same]
      · simp only [after, Function.update_of_ne own, same]
  | delete dropped =>
      by_cases own : key = dropped
      · subst own
        simp only [after, Function.update_self]
      · simp only [after, Function.update_of_ne own, same]
  | get other => exact same
  | set other value lifetime => exact same
  | take other => exact same
  | «exists» other => exact same
  | health => exact same

namespace Throttle

/-- Not another client's request. -/
def Errand.concerns (identity : String) : Errand → Bool
  | .enter client _ => client == identity
  | .use _ _ => true

theorem ledgerRun_concerns (capacity : Nat) (identity : String) (errands : List Errand)
    (one other : Ledger)
    (same : one (Cache.Key.rateLimit identity) = other (Cache.Key.rateLimit identity)) :
    (ledgerRun capacity one errands).filter (Decision.concerns identity) =
      ledgerRun capacity other (errands.filter (Errand.concerns identity)) := by
  induction errands generalizing one other with
  | nil => rfl
  | cons errand rest ih =>
      cases errand with
      | enter client now =>
          by_cases own : client = identity
          · subst own
            have decided : one.allows capacity client now = other.allows capacity client now := by
              rw [Ledger.allows, Ledger.allows, same]
            simp only [ledgerRun, List.filter_cons, Decision.concerns, Errand.concerns,
              beq_self_eq_true, if_true, decided]
            exact congrArg _ (ih _ _ (Ledger.after_congr one other _ same now _))
          · have differs : Cache.Key.rateLimit identity ≠ Cache.Key.rateLimit client :=
              fun spelled => own (Cache.Key.rateLimit_injective _ _ spelled).symm
            have next : one.entered capacity client now (Cache.Key.rateLimit identity) =
                other (Cache.Key.rateLimit identity) := by
              rw [Ledger.entered, Ledger.after, Function.update_of_ne differs, same]
            simp only [ledgerRun, List.filter_cons, Decision.concerns, Errand.concerns,
              beq_false_of_ne own, Bool.false_eq_true, if_false]
            exact ih _ _ next
      | use call now =>
          simp only [ledgerRun, List.filter_cons, Errand.concerns, if_true]
          exact ih _ _ (Ledger.after_congr one other _ same now call)

/-! ## Any run -/

/-- The decisions on one client's requests are those of the run without the other clients: with
buckets whatever the instants are, with the sweeps where they were; and at the gate that counts in a
cache which works, however full that is and whatever else it is used for, while the clock does not
go back. -/
theorem bystanders_unseen (identity : String) :
    (∀ {α : Type} [Arithmetic α] (buckets : Buckets α) (events : List Event),
      (buckets.events events).1.filter (Decision.concerns identity) =
        (buckets.events (events.filter (Event.concerns identity))).1) ∧
    ∀ {ν : Type} [Arithmetic ν] (surroundings : Surroundings) (capacity limit : Nat)
      (world : World ν) (errands : List Errand),
      surroundings.cache = .healthy →
      ((errands.map Errand.now).Pairwise fun earlier later => earlier ≤ later) →
      (sharedRun surroundings capacity limit world errands).1.filter
          (Decision.concerns identity) =
        (sharedRun surroundings capacity limit world
          (errands.filter (Errand.concerns identity))).1 := by
  constructor
  · intro α _ buckets events
    have agree : Buckets.Agree identity buckets buckets := ⟨rfl, rfl, rfl⟩
    exact agree.decisions_eq events
  · intro ν _ surroundings capacity limit world errands healthy ordered
    have alone : ((errands.filter (Errand.concerns identity)).map Errand.now).Pairwise
        fun earlier later => earlier ≤ later :=
      ordered.sublist (List.filter_sublist.map Errand.now)
    rw [sharedRun_eq_ledgerRun capacity surroundings limit healthy world errands ordered,
      sharedRun_eq_ledgerRun capacity surroundings limit healthy world _ alone]
    exact ledgerRun_concerns capacity identity errands _ _ rfl

/-- Clients whose names look like keys, one of them like the key of another one's counter, and a cache
with no room, which prunes when the last but one of them comes. -/
theorem bystanders_unseen_lookalikes :
    let surroundings : Surroundings :=
      ⟨.healthy, .healthy, true, .plain "", fun _ => 0, fun _ => ⟨0⟩⟩
    let world : World ℚ := .start .epoch 0 ⟨1, 0, .empty⟩
    let errands : List Errand :=
      [.enter "ada" 0, .enter "rate_limit:ada" 0, .enter "captcha:7" 30000000000,
        .use (.delete "captcha:7") 40000000000, .enter "ada" 59999999999,
        .enter "rate_limit:ada" 60000000000, .enter "ada" 60000000001]
    let events : List Event :=
      [.visit ⟨"ada", 0⟩, .visit ⟨"rate_limit:ada", 0⟩, .visit ⟨"ada", 5⟩, .sweep 7,
        .visit ⟨"captcha:7", 3⟩, .visit ⟨"ada", 4⟩]
    surroundings.cache = .healthy ∧
      ((errands.map Errand.now).Pairwise fun earlier later => earlier ≤ later) ∧
      (sharedRun surroundings 1 1000 world errands).1.filter (Decision.concerns "ada") =
        [⟨⟨"ada", 0⟩, true⟩, ⟨⟨"ada", 59999999999⟩, false⟩, ⟨⟨"ada", 60000000001⟩, true⟩] ∧
      ((Buckets.empty 1 0 : Buckets ℚ).events events).1.filter (Decision.concerns "ada") =
        [⟨⟨"ada", 0⟩, true⟩, ⟨⟨"ada", 5⟩, false⟩, ⟨⟨"ada", 4⟩, true⟩] := by
  intro surroundings world errands events
  have ordered : (errands.map Errand.now).Pairwise fun earlier later => earlier ≤ later := by
    simp [errands, Errand.now]
  obtain ⟨memory, shared⟩ := bystanders_unseen "ada"
  refine ⟨rfl, ordered, ?_, ?_⟩
  · rw [shared surroundings 1 1000 world errands rfl ordered]
    decide +kernel
  · rw [memory (Buckets.empty 1 0) events]
    decide +kernel

end Throttle

end Gatehouse

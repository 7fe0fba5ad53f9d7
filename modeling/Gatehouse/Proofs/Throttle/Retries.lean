import Gatehouse.Proofs.Throttle.BucketRate
import Gatehouse.Proofs.Throttle.LedgerRuns

/-!
# Retries

A rejected request costs a client nothing: take any rejected requests out of a
run, and what remains is decided as before (`rejections_free`).  A bucket that
rejects a request holds no whole token, so it has not reached its capacity, and
filling it up twice adds what filling it up once would (`alike_of_rejected`).  A
counter that rejects a request is full and stays as it is
(`Ledger.entered_of_rejected`).
-/

set_option autoImplicit false

namespace Gatehouse

open Service

namespace Throttle

/-- Takes rejected requests out of a run, any number of them. -/
inductive Spared : List Decision → List Decision → Prop
  | nil : Spared [] []
  | keep (decision : Decision) {all fewer : List Decision} :
      Spared all fewer → Spared (decision :: all) (decision :: fewer)
  | drop (decision : Decision) {all fewer : List Decision} (rejected : decision.allowed = false) :
      Spared all fewer → Spared (decision :: all) fewer

theorem Spared.sublist {all fewer : List Decision} (spared : Spared all fewer) :
    List.Sublist fewer all := by
  induction spared with
  | nil => exact List.Sublist.refl []
  | keep decision _ ih => exact ih.cons_cons decision
  | drop decision _ _ ih => exact ih.cons decision

theorem Spared.cons {decision : Decision} {all fewer : List Decision}
    (spared : Spared (decision :: all) fewer) :
    (∃ rest, fewer = decision :: rest ∧ Spared all rest) ∨
      decision.allowed = false ∧ Spared all fewer := by
  cases spared with
  | keep _ spared => exact Or.inl ⟨_, rfl, spared⟩
  | drop _ rejected spared => exact Or.inr ⟨rejected, spared⟩

/-! ## Buckets -/

/-- From `now` on, a client is served the same with either bucket. -/
def Alike (capacity : Nat) (now : Int) (one other : Option (Bucket ℚ)) : Prop :=
  ∀ later, now ≤ later → spendOne capacity one later = spendOne capacity other later

section

variable (capacity : Nat) (positive : 1 ≤ capacity) (now : Int)

include positive

/-- A bucket without a whole token is not full, so it fills up further as if nobody had looked. -/
theorem Bucket.filled_of_scarce (bucket : Bucket ℚ) (dated : bucket.lastRefill ≤ now)
    (scarce : bucket.filled capacity now < 1) (later : Int) (ordered : now ≤ later) :
    Bucket.filled capacity ⟨bucket.filled capacity now, now⟩ later =
      bucket.filled capacity later := by
  have least : (1 : ℚ) ≤ capacity := by exact_mod_cast positive
  have partway : bucket.filled capacity now =
      bucket.tokens + capacity * (seconds now - seconds bucket.lastRefill) / 60 := by
    rw [Bucket.filled, refill_rat, elapsed_cast _ _ dated] at scarce ⊢
    rcases min_lt_iff.mp scarce with below | full
    · exact min_eq_left (below.le.trans least)
    · exact absurd full (not_lt.mpr least)
  rw [partway]
  simp only [Bucket.filled, refill_rat, elapsed_cast _ _ ordered,
    elapsed_cast _ _ (dated.trans ordered)]
  congr 1
  ring

theorem alike_of_rejected (held : Option (Bucket ℚ))
    (dated : ∀ bucket, held = some bucket → bucket.lastRefill ≤ now)
    (rejected : (spendOne capacity held now).1 = false) :
    Alike capacity now (some (spendOne capacity held now).2) held := by
  intro later ordered
  cases held with
  | none => cases rejected
  | some bucket =>
      simp only [spendOne, Bucket.spend_rat] at rejected ⊢
      split at rejected
      · rename_i scarce
        simp only [if_pos scarce,
          bucket.filled_of_scarce capacity positive now (dated bucket rfl) scarce later ordered]
      · cases rejected

end

/-- Buckets that have seen a run, and buckets that were spared rejected requests of it. -/
structure Buckets.Spares (now : Int) (all fewer : Buckets ℚ) : Prop where
  capacity : fewer.capacity = all.capacity
  positive : 1 ≤ all.capacity
  dated : ∀ identity bucket, all.clients.get? identity = some bucket → bucket.lastRefill ≤ now
  alike : ∀ identity, Alike all.capacity now
    (all.clients.get? identity) (fewer.clients.get? identity)

theorem Buckets.dated_spend (buckets : Buckets ℚ) (now : Int)
    (dated : ∀ identity bucket, buckets.clients.get? identity = some bucket →
      bucket.lastRefill ≤ now) (identity : String) :
    ∀ other bucket, (buckets.spend identity now).2.clients.get? other = some bucket →
      bucket.lastRefill ≤ now := by
  intro other bucket held
  rw [get?_spend] at held
  split at held
  · rw [← Option.some.inj held, spendOne_lastRefill]
  · exact dated other bucket held

theorem Buckets.visits_cons (buckets : Buckets ℚ) (visit : Visit) (rest : List Visit) :
    (buckets.visits (visit :: rest)).1 =
      ⟨visit, (buckets.spend visit.identity visit.now).1⟩ ::
        ((buckets.spend visit.identity visit.now).2.visits rest).1 := rfl

namespace Buckets.Spares

variable {now : Int} {all fewer : Buckets ℚ} (spares : Spares now all fewer)

include spares

theorem later (later : Int) (ordered : now ≤ later) : Spares later all fewer :=
  { spares with
    dated := fun identity bucket held => (spares.dated identity bucket held).trans ordered
    alike := fun identity after rest => spares.alike identity after (ordered.trans rest) }

theorem keep (identity : String) :
    (fewer.spend identity now).1 = (all.spend identity now).1 ∧
      Spares now (all.spend identity now).2 (fewer.spend identity now).2 := by
  have same := spares.alike identity now le_rfl
  constructor
  · rw [spend_allowed, spend_allowed, spares.capacity, same]
  · refine ⟨by simp [spares.capacity], by simpa using spares.positive,
      all.dated_spend now spares.dated identity, fun other => ?_⟩
    rw [get?_spend, get?_spend, spend_capacity, spares.capacity, same]
    by_cases own : other = identity
    · rw [if_pos own, if_pos own]
      exact fun _ _ => rfl
    · rw [if_neg own, if_neg own]
      exact spares.alike other

theorem drop (identity : String) (rejected : (all.spend identity now).1 = false) :
    Spares now (all.spend identity now).2 fewer := by
  rw [spend_allowed] at rejected
  refine ⟨by simp [spares.capacity], by simpa using spares.positive,
    all.dated_spend now spares.dated identity, fun other later ordered => ?_⟩
  rw [get?_spend, spend_capacity]
  by_cases own : other = identity
  · subst own
    rw [if_pos rfl]
    calc spendOne all.capacity (some (spendOne all.capacity (all.clients.get? other) now).2) later
        = spendOne all.capacity (all.clients.get? other) later :=
          alike_of_rejected all.capacity spares.positive now _ (spares.dated other) rejected
            later ordered
      _ = spendOne all.capacity (fewer.clients.get? other) later :=
          spares.alike other later ordered
  · rw [if_neg own]
    exact spares.alike other later ordered

theorem decisions_eq (calls : List Visit) (kept : List Decision)
    (spared : Spared (all.visits calls).1 kept)
    (ordered : (now :: calls.map Visit.now).Pairwise fun earlier later => earlier ≤ later) :
    (fewer.visits (kept.map Decision.visit)).1 = kept := by
  induction calls generalizing now all fewer kept with
  | nil =>
      cases spared with
      | nil => rfl
  | cons visit rest ih =>
      rw [List.map_cons, List.pairwise_cons] at ordered
      have here := spares.later visit.now (ordered.1 visit.now List.mem_cons_self)
      rw [visits_cons] at spared
      rcases spared.cons with ⟨others, rfl, tail⟩ | ⟨rejected, tail⟩
      · obtain ⟨same, next⟩ := here.keep visit.identity
        rw [List.map_cons, visits_cons, same, ih next others tail ordered.2]
      · exact ih (here.drop visit.identity rejected) kept tail ordered.2

end Buckets.Spares

end Throttle

/-! ## Counters -/

open Throttle

theorem Service.Ledger.entered_of_rejected (capacity : Nat) (positive : 1 ≤ capacity) (ledger : Ledger)
    (identity : String) (now : Nat) (rejected : ledger.allows capacity identity now = false) :
    ledger.entered capacity identity now = ledger := by
  have full : capacity ≤
      (Cache.live (ledger (Cache.Key.rateLimit identity)) windowLength now).count := by
    simpa [Ledger.allows] using rejected
  have held : ledger (Cache.Key.rateLimit identity) =
      some (Cache.live (ledger (Cache.Key.rateLimit identity)) windowLength now) := by
    cases counter : ledger (Cache.Key.rateLimit identity) with
    | none =>
        rw [counter] at full
        exact absurd positive (by simpa [Cache.live] using full)
    | some window =>
        by_cases closed : window.closed now = true
        · rw [counter, Cache.live, if_pos closed] at full
          exact absurd positive (by simpa using full)
        · rw [Cache.live, if_neg closed]
  have still : Cache.Memory.Window.counted
      (Cache.live (ledger (Cache.Key.rateLimit identity)) windowLength now) capacity =
        Cache.live (ledger (Cache.Key.rateLimit identity)) windowLength now :=
    if_neg (not_lt.mpr full)
  rw [Ledger.entered, Ledger.after, still, ← held, Function.update_eq_self]

namespace Throttle

/-- A request as an errand at the shared gate. -/
def Visit.errand (visit : Visit) : Errand :=
  .enter visit.identity visit.now.toNat

theorem ledgerRun_cons (capacity : Nat) (ledger : Ledger) (visit : Visit) (begun : 0 ≤ visit.now)
    (rest : List Errand) :
    ledgerRun capacity ledger (visit.errand :: rest) =
      ⟨visit, ledger.allows capacity visit.identity visit.now.toNat⟩ ::
        ledgerRun capacity (ledger.entered capacity visit.identity visit.now.toNat) rest := by
  rw [Visit.errand, ledgerRun, Int.toNat_of_nonneg begun]

theorem ledgerRun_visits (capacity : Nat) (ledger : Ledger) (calls : List Visit)
    (begun : ∀ visit ∈ calls, 0 ≤ visit.now) :
    (ledgerRun capacity ledger (calls.map Visit.errand)).map Decision.visit = calls := by
  induction calls generalizing ledger with
  | nil => rfl
  | cons visit rest ih =>
      rw [List.forall_mem_cons] at begun
      rw [List.map_cons, ledgerRun_cons capacity ledger visit begun.1, List.map_cons,
        ih _ begun.2]

theorem ledgerRun_of_spared (capacity : Nat) (positive : 1 ≤ capacity) (ledger : Ledger)
    (calls : List Visit) (begun : ∀ visit ∈ calls, 0 ≤ visit.now) (kept : List Decision)
    (spared : Spared (ledgerRun capacity ledger (calls.map Visit.errand)) kept) :
    ledgerRun capacity ledger ((kept.map Decision.visit).map Visit.errand) = kept := by
  induction calls generalizing ledger kept with
  | nil =>
      cases spared with
      | nil => rfl
  | cons visit rest ih =>
      rw [List.forall_mem_cons] at begun
      rw [List.map_cons, ledgerRun_cons capacity ledger visit begun.1] at spared
      rcases spared.cons with ⟨others, rfl, tail⟩ | ⟨rejected, tail⟩
      · rw [List.map_cons, List.map_cons, ledgerRun_cons capacity ledger visit begun.1,
          ih _ begun.2 others tail]
      · rw [Ledger.entered_of_rejected capacity positive ledger _ _ rejected] at tail
        exact ih ledger begun.2 kept tail

theorem errands_ordered (calls : List Visit)
    (ordered : (calls.map Visit.now).Pairwise fun earlier later => earlier ≤ later) :
    ((calls.map Visit.errand).map Errand.now).Pairwise fun earlier later => earlier ≤ later := by
  rw [List.map_map, List.pairwise_map]
  refine (List.pairwise_map.mp ordered).imp ?_
  intro one other before
  exact Int.toNat_le_toNat before

/-! ## Any run -/

/-- In a run whose instants do not go back, any rejected requests may be taken out: every other
request is decided as before, by a new limiter with exact buckets and by one that counts in a cache
which works, whatever else that one holds. -/
theorem rejections_free (capacity : Nat) (positive : 1 ≤ capacity) (calls : List Visit)
    (ordered : (calls.map Visit.now).Pairwise fun earlier later => earlier ≤ later) :
    (∀ (staleAfter : Nat) (fewer : List Decision),
      Spared ((Buckets.empty capacity staleAfter : Buckets ℚ).visits calls).1 fewer →
        ((Buckets.empty capacity staleAfter : Buckets ℚ).visits (fewer.map Decision.visit)).1 =
          fewer) ∧
    ∀ {ν : Type} [Arithmetic ν] (surroundings : Surroundings) (limit : Nat) (world : World ν)
      (fewer : List Decision),
      surroundings.cache = .healthy → (∀ visit ∈ calls, 0 ≤ visit.now) →
      Spared (sharedRun surroundings capacity limit world (calls.map Visit.errand)).1 fewer →
        (sharedRun surroundings capacity limit world
          ((fewer.map Decision.visit).map Visit.errand)).1 = fewer := by
  constructor
  · intro staleAfter fewer spared
    cases calls with
    | nil =>
        cases spared with
        | nil => rfl
    | cons first rest =>
        have start : Buckets.Spares first.now (Buckets.empty capacity staleAfter)
            (Buckets.empty capacity staleAfter) :=
          ⟨rfl, positive, fun _ _ held => (by cases held), fun _ _ _ => rfl⟩
        refine start.decisions_eq (first :: rest) fewer spared ?_
        rw [List.map_cons, List.pairwise_cons] at ordered ⊢
        exact ⟨List.forall_mem_cons.mpr ⟨le_rfl, ordered.1⟩, List.pairwise_cons.mpr ordered⟩
  · intro ν _ surroundings limit world fewer healthy begun spared
    have counted := sharedRun_eq_ledgerRun capacity surroundings limit healthy world
      (calls.map Visit.errand) (errands_ordered calls ordered)
    rw [counted] at spared
    have among : List.Sublist (fewer.map Decision.visit) calls := by
      have listed := spared.sublist.map Decision.visit
      rwa [ledgerRun_visits capacity _ calls begun] at listed
    have again := sharedRun_eq_ledgerRun capacity surroundings limit healthy world
      ((fewer.map Decision.visit).map Visit.errand)
      (errands_ordered _ (ordered.sublist (among.map Visit.now)))
    rw [again]
    exact ledgerRun_of_spared capacity positive _ calls begun fewer spared

/-- One request a minute: a client that has been let through tries again after half a minute and
after fifty seconds, and is let through a minute after its first request as if it had not. -/
theorem rejections_free_half_minutes :
    let calls : List Visit :=
      [⟨"ada", 0⟩, ⟨"bob", 1⟩, ⟨"ada", 30000000000⟩, ⟨"bob", 40000000000⟩, ⟨"ada", 50000000000⟩,
        ⟨"ada", 60000000000⟩]
    let fewer : List Decision :=
      [⟨⟨"ada", 0⟩, true⟩, ⟨⟨"bob", 1⟩, true⟩, ⟨⟨"bob", 40000000000⟩, false⟩,
        ⟨⟨"ada", 60000000000⟩, true⟩]
    let surroundings : Surroundings :=
      ⟨.healthy, .healthy, true, .plain "", fun _ => 0, fun _ => ⟨0⟩⟩
    let world : World ℚ := .start .epoch 0 ⟨1, 0, .empty⟩
    1 ≤ 1 ∧ ((calls.map Visit.now).Pairwise fun earlier later => earlier ≤ later) ∧
      surroundings.cache = .healthy ∧ (∀ visit ∈ calls, 0 ≤ visit.now) ∧
      Spared ((Buckets.empty 1 0 : Buckets ℚ).visits calls).1 fewer ∧
      Spared (sharedRun surroundings 1 1000 world (calls.map Visit.errand)).1 fewer ∧
      ((Buckets.empty 1 0 : Buckets ℚ).visits (fewer.map Decision.visit)).1 = fewer ∧
      (sharedRun surroundings 1 1000 world
        ((fewer.map Decision.visit).map Visit.errand)).1 = fewer := by
  intro calls fewer surroundings world
  have ordered : (calls.map Visit.now).Pairwise fun earlier later => earlier ≤ later := by decide
  have begun : ∀ visit ∈ calls, 0 ≤ visit.now := by decide
  have asked : ((Buckets.empty 1 0 : Buckets ℚ).visits calls).1 =
      [⟨⟨"ada", 0⟩, true⟩, ⟨⟨"bob", 1⟩, true⟩, ⟨⟨"ada", 30000000000⟩, false⟩,
        ⟨⟨"bob", 40000000000⟩, false⟩, ⟨⟨"ada", 50000000000⟩, false⟩,
        ⟨⟨"ada", 60000000000⟩, true⟩] := by decide +kernel
  have counted : (sharedRun surroundings 1 1000 world (calls.map Visit.errand)).1 =
      ((Buckets.empty 1 0 : Buckets ℚ).visits calls).1 := by
    rw [asked]
    decide +kernel
  have spared : Spared ((Buckets.empty 1 0 : Buckets ℚ).visits calls).1 fewer := by
    rw [asked]
    exact .keep _ (.keep _ (.drop _ rfl (.keep _ (.drop _ rfl (.keep _ .nil)))))
  have sharedSpared :
      Spared (sharedRun surroundings 1 1000 world (calls.map Visit.errand)).1 fewer := by
    rw [counted]
    exact spared
  obtain ⟨memory, shared⟩ := rejections_free 1 le_rfl calls ordered
  exact ⟨le_rfl, ordered, rfl, begun, spared, sharedSpared, memory 0 fewer spared,
    shared surroundings 1000 world fewer rfl begun sharedSpared⟩

end Throttle

end Gatehouse

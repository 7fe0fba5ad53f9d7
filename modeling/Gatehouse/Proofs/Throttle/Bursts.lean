import Gatehouse.Proofs.Doubles
import Gatehouse.Proofs.Throttle.FixedWindows
import Gatehouse.Proofs.Throttle.LedgerRuns

/-!
# Bursts

Requests of any clients that all come at one instant to a new limiter.  Of each
client the first ones are let through, as many as the capacity, by buckets that
count in doubles as by counters in the cache (`bursts_agree`).  Both count the
same requests: what is left in a bucket is a whole number, which doubles hold
exactly, and the counter is still in its first window (`Counted`).
-/

set_option autoImplicit false

namespace Gatehouse.Throttle

open Service

/-! ## Buckets at one instant -/

section

variable (capacity tokens : Nat) (now : Int)

theorem refill_ofNat (width : capacity < 2 ^ 53) (within : tokens < capacity) :
    refill capacity (Float.ofNat tokens) (elapsed now now) = Float.ofNat tokens := by
  have still : elapsed now now = 0 := by simp [elapsed]
  have unfolded : refill capacity (Float.ofNat tokens) 0 =
      if decide (Float.ofNat tokens + Float.ofNat 0 * Float.ofNat capacity <
          Float.ofNat capacity) then
        Float.ofNat tokens + Float.ofNat 0 * Float.ofNat capacity
      else Float.ofNat capacity := rfl
  rw [still, unfolded, Doubles.ofNat_add_zero_mul tokens capacity (by omega) width,
    Doubles.ofNat_lt tokens capacity (by omega) width, if_pos (decide_eq_true within)]

theorem Bucket.spend_ofNat (width : capacity < 2 ^ 53) (within : tokens < capacity) :
    Bucket.spend capacity ⟨Float.ofNat tokens, now⟩ now =
      (decide (0 < tokens), ⟨Float.ofNat (tokens - 1), now⟩) := by
  have unfolded : Bucket.spend capacity ⟨Float.ofNat tokens, now⟩ now =
      if decide (refill capacity (Float.ofNat tokens) (elapsed now now) < Float.ofNat 1) then
        (false, ⟨refill capacity (Float.ofNat tokens) (elapsed now now), now⟩)
      else
        (true, ⟨refill capacity (Float.ofNat tokens) (elapsed now now) - Float.ofNat 1, now⟩) := rfl
  rw [unfolded, refill_ofNat capacity tokens now width within,
    Doubles.ofNat_lt tokens 1 (by omega) (by decide)]
  cases tokens with
  | zero => rfl
  | succ tokens =>
      rw [if_neg (by simp), Doubles.ofNat_sub_one tokens (by omega), Nat.add_sub_cancel,
        decide_eq_true (Nat.succ_pos tokens)]

/-- What a client holds that has come so often. -/
def bucketAfter (requests : Nat) : Option (Bucket Float) :=
  if requests = 0 then none else some ⟨Float.ofNat (capacity - requests), now⟩

theorem spendOne_bucketAfter (positive : 1 ≤ capacity) (width : capacity < 2 ^ 53)
    (requests : Nat) :
    (spendOne capacity (bucketAfter capacity now requests) now).1 = decide (requests < capacity) ∧
      some (spendOne capacity (bucketAfter capacity now requests) now).2 =
        bucketAfter capacity now (requests + 1) := by
  by_cases new : requests = 0
  · subst new
    obtain ⟨rest, rfl⟩ : ∃ rest, capacity = rest + 1 := ⟨capacity - 1, by omega⟩
    have first : (Bucket.first (rest + 1) now : Bucket Float) =
        ⟨Float.ofNat (rest + 1) - Float.ofNat 1, now⟩ := rfl
    refine ⟨(decide_eq_true positive).symm, ?_⟩
    show some (Bucket.first (rest + 1) now) = some ⟨Float.ofNat (rest + 1 - (0 + 1)), now⟩
    rw [first, Doubles.ofNat_sub_one rest width]
    rfl
  · have spent := Bucket.spend_ofNat capacity (capacity - requests) now width (by omega)
    have left : decide (0 < capacity - requests) = decide (requests < capacity) := by
      rw [decide_eq_decide]
      omega
    rw [bucketAfter, if_neg new, spendOne, spent, left, bucketAfter, if_neg (by omega),
      Nat.sub_sub]
    exact ⟨rfl, rfl⟩

end

/-! ## Both gates count -/

/-- What a key of the ledger holds of a client that has come so often. -/
def counterAfter (capacity now requests : Nat) : Option Cache.Window :=
  if requests = 0 then none else some (counter capacity now requests)

theorem live_counterAfter (capacity now requests : Nat) :
    Cache.live (counterAfter capacity now requests) windowLength now =
      counter capacity now requests := by
  by_cases new : requests = 0
  · subst new
    simp [counterAfter, Cache.live, counter]
  · rw [counterAfter, if_neg new, live_counter, if_pos (by simp [windowLength])]

/-- The gate has seen so many requests of each client, all of them now. -/
def Counted (capacity now : Nat) (counts : String → Nat) (world : World Float) :
    Backend → Prop
  | .memory => world.buckets.capacity = capacity ∧
      ∀ identity, world.buckets.clients.get? identity = bucketAfter capacity now (counts identity)
  | .shared => ∃ ledger, Ledger.Kept now ledger world.cache ∧
      ∀ identity, ledger (Cache.Key.rateLimit identity) = counterAfter capacity now (counts identity)

def countedOnce (counts : String → Nat) (identity : String) : String → Nat :=
  Function.update counts identity (counts identity + 1)

variable (surroundings : Surroundings) (capacity limit : Nat)

theorem counted_spend (positive : 1 ≤ capacity) (width : capacity < 2 ^ 53)
    (counts : String → Nat) (world : World Float)
    (counted : Counted capacity world.clock counts world .memory) (identity : String) :
    ∃ later, (pass .memory capacity limit identity).run surroundings world =
        (decide (counts identity < capacity), later) ∧
      later.clock = world.clock ∧
      Counted capacity world.clock (countedOnce counts identity) later .memory := by
  obtain ⟨same, held⟩ := counted
  obtain ⟨decided, left⟩ := spendOne_bucketAfter capacity world.clock positive width
    (counts identity)
  refine ⟨{ world with buckets := (world.buckets.spend identity world.clock).2 }, ?_, rfl, ?_⟩
  · rw [← decided, ← held identity, ← same, ← Buckets.spend_allowed]
    rfl
  · refine ⟨(Buckets.spend_capacity _ _ _).trans same, fun other => ?_⟩
    rw [Buckets.get?_spend, same, held identity, left, held other]
    by_cases own : other = identity
    · subst own
      rw [if_pos rfl, countedOnce, Function.update_self]
    · rw [if_neg own, countedOnce, Function.update_of_ne own]

theorem counted_increment (healthy : surroundings.cache = .healthy) (counts : String → Nat)
    (world : World Float) (counted : Counted capacity world.clock counts world .shared)
    (identity : String) :
    ∃ later, (pass .shared capacity limit identity).run surroundings world =
        (decide (counts identity < capacity), later) ∧
      later.clock = world.clock ∧
      Counted capacity world.clock (countedOnce counts identity) later .shared := by
  obtain ⟨ledger, kept, held⟩ := counted
  obtain ⟨found, next⟩ := kept.increment (Cache.Key.rateLimit identity) capacity windowLength
  rw [held identity, live_counterAfter] at found
  refine ⟨{ world with
    cacheCalls := world.cacheCalls + 1
    cache := (world.cache.increment (Cache.Key.rateLimit identity) capacity windowLength
      world.clock).2 }, ?_, rfl, ?_⟩
  · rw [pass, passShared, Flow.run_ask, World.answer_cache surroundings healthy,
      ← decide_counter capacity world.clock, ← found]
    rfl
  · refine ⟨_, next, fun other => ?_⟩
    by_cases own : other = identity
    · subst own
      rw [Ledger.after, Function.update_self, held other, live_counterAfter, counted_counter,
        countedOnce, Function.update_self, counterAfter, if_neg (Nat.succ_ne_zero _)]
    · have differs : Cache.Key.rateLimit other ≠ Cache.Key.rateLimit identity :=
        fun same => own (Cache.Key.rateLimit_injective _ _ same)
      rw [Ledger.after, Function.update_of_ne differs, held other, countedOnce,
        Function.update_of_ne own]

/-! ## Any burst -/

/-- The requests at a gate one after the other. -/
def passAll (backend : Backend) : World Float → List String → List Bool
  | _, [] => []
  | world, identity :: rest =>
    let (allowed, world) := (pass backend capacity limit identity).run surroundings world
    allowed :: passAll backend world rest

/-- Of each client, the first requests are let through, as many as the capacity. -/
def firstOfEach (identities : List String) : List Bool :=
  identities.mapIdx fun position identity =>
    decide ((identities.take position).count identity < capacity)

/-- The same when so many requests of each client are over. -/
def restOfEach : (String → Nat) → List String → List Bool
  | _, [] => []
  | counts, identity :: rest =>
    decide (counts identity < capacity) :: restOfEach (countedOnce counts identity) rest

theorem restOfEach_eq (counts : String → Nat) (identities : List String) :
    restOfEach capacity counts identities =
      identities.mapIdx fun position identity =>
        decide (counts identity + (identities.take position).count identity < capacity) := by
  induction identities generalizing counts with
  | nil => rfl
  | cons first rest ih =>
      rw [restOfEach, ih, List.mapIdx_cons]
      congr 2
      funext position identity
      have onceMore : countedOnce counts first identity + (rest.take position).count identity =
          counts identity + ((first :: rest).take (position + 1)).count identity := by
        rw [List.take_succ_cons, List.count_cons, countedOnce]
        by_cases own : identity = first
        · subst own
          rw [Function.update_self, if_pos (beq_self_eq_true identity), Nat.add_assoc,
            Nat.add_comm 1]
        · rw [Function.update_of_ne own, if_neg (by simpa using Ne.symm own), Nat.add_zero]
      rw [onceMore]

theorem passAll_eq (healthy : surroundings.cache = .healthy) (positive : 1 ≤ capacity)
    (width : capacity < 2 ^ 53) (backend : Backend) (identities : List String)
    (counts : String → Nat) (world : World Float)
    (counted : Counted capacity world.clock counts world backend) :
    passAll surroundings capacity limit backend world identities =
      restOfEach capacity counts identities := by
  induction identities generalizing counts world with
  | nil => rfl
  | cons identity rest ih =>
      have step : ∃ later, (pass backend capacity limit identity).run surroundings world =
            (decide (counts identity < capacity), later) ∧
          later.clock = world.clock ∧
          Counted capacity world.clock (countedOnce counts identity) later backend := by
        cases backend with
        | memory =>
            exact counted_spend surroundings capacity limit positive width counts world counted
              identity
        | shared =>
            exact counted_increment surroundings capacity limit healthy counts world counted
              identity
      obtain ⟨later, run, still, next⟩ := step
      rw [← still] at next
      rw [passAll, run, restOfEach]
      exact congrArg _ (ih _ later next)

/-- A burst at a new limiter, whatever the capacity of the cache is: buckets of doubles and counters
in a cache that works decide alike, and let the first requests of each client through. -/
theorem bursts_agree (healthy : surroundings.cache = .healthy) (positive : 1 ≤ capacity)
    (width : capacity < 2 ^ 32) (wall : Instant) (room staleAfter now : Nat)
    (identities : List String) :
    let fresh : World Float :=
      { World.start wall room (.empty capacity staleAfter) with clock := now }
    passAll surroundings capacity limit .memory fresh identities =
        passAll surroundings capacity limit .shared fresh identities ∧
      ∀ backend, passAll surroundings capacity limit backend fresh identities =
        firstOfEach capacity identities := by
  intro fresh
  have decided : ∀ backend, passAll surroundings capacity limit backend fresh identities =
      firstOfEach capacity identities := by
    intro backend
    have none : Counted capacity fresh.clock (fun _ => 0) fresh backend := by
      cases backend with
      | memory => exact ⟨rfl, fun identity => rfl⟩
      | shared => exact ⟨fun _ => none, fun key => Or.inl rfl, fun identity => rfl⟩
    rw [passAll_eq surroundings capacity limit healthy positive (by omega) backend identities _ _
      none, restOfEach_eq, firstOfEach]
    simp only [Nat.zero_add]
  exact ⟨(decided .memory).trans (decided .shared).symm, decided⟩

/-- Two clients in turn at a gate for two, and a cache with no room. -/
theorem bursts_agree_two_clients :
    let surroundings : Surroundings :=
      ⟨.healthy, .healthy, true, .plain "", fun _ => 0, fun _ => ⟨0⟩⟩
    let fresh : World Float := { World.start .epoch 0 (.empty 2 0) with clock := 5 }
    let identities := ["ada", "bob", "ada", "ada", "bob", "bob", "ada"]
    surroundings.cache = .healthy ∧ 1 ≤ 2 ∧ 2 < 2 ^ 32 ∧
      passAll surroundings 2 1000 .memory fresh identities =
        passAll surroundings 2 1000 .shared fresh identities ∧
      passAll surroundings 2 1000 .memory fresh identities =
        [true, true, true, false, true, false, false] := by
  intro surroundings fresh identities
  obtain ⟨agree, decided⟩ := bursts_agree surroundings 2 1000 rfl (by decide) (by decide) .epoch
    0 0 5 identities
  exact ⟨rfl, by decide, by decide, agree, decided .memory⟩

end Gatehouse.Throttle

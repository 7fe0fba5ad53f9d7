import Mathlib
import Gatehouse.Proofs.Throttle.Visits

/-!
# The rate of a bucket

With exact arithmetic a bucket never holds less than nothing or more than its
capacity, lets no more requests through in a stretch of time than a full bucket
and what is filled up meanwhile, and never rejects a client that leaves the time
of one token between its requests.
-/

set_option autoImplicit false

namespace Gatehouse.Throttle

/-! ## Exact arithmetic -/

def seconds (instant : Int) : ℚ := (instant : ℚ) / 1000000000

theorem minutes_rat (nanoseconds : Nat) :
    (minutes nanoseconds : ℚ) = (nanoseconds : ℚ) / 1000000000 / 60 := by
  have split : ((nanoseconds / second : Nat) : ℚ) * 1000000000 + ((nanoseconds % second : Nat) : ℚ) =
      nanoseconds := by
    have whole := Nat.div_add_mod nanoseconds second
    rw [second] at whole ⊢
    rw [mul_comm]
    exact_mod_cast whole
  have parts : (minutes nanoseconds : ℚ) =
      (((nanoseconds / second : Nat) : ℚ) +
        ((nanoseconds % second : Nat) : ℚ) / ((second : Nat) : ℚ)) / ((60 : Nat) : ℚ) := rfl
  rw [parts, ← split]
  simp only [second]
  push_cast
  ring

theorem refill_rat (capacity : Nat) (tokens : ℚ) (nanoseconds : Nat) :
    refill capacity tokens nanoseconds =
      min (tokens + capacity * ((nanoseconds : ℚ) / 1000000000) / 60) capacity := by
  have unfolded : refill capacity tokens nanoseconds =
      if decide (tokens + (minutes nanoseconds : ℚ) * capacity < capacity) then
        tokens + (minutes nanoseconds : ℚ) * capacity
      else (capacity : ℚ) := rfl
  have filled : tokens + (minutes nanoseconds : ℚ) * capacity =
      tokens + capacity * ((nanoseconds : ℚ) / 1000000000) / 60 := by
    rw [minutes_rat]
    ring
  rw [unfolded, filled]
  simp only [decide_eq_true_eq]
  split
  · rename_i below
    exact (min_eq_left below.le).symm
  · rename_i above
    exact (min_eq_right (not_lt.mp above)).symm

theorem elapsed_cast (earlier later : Int) (ordered : earlier ≤ later) :
    ((elapsed earlier later : Nat) : ℚ) / 1000000000 = seconds later - seconds earlier := by
  have whole : ((elapsed earlier later : Nat) : Int) = later - earlier := by
    rw [elapsed]
    omega
  have cast : ((elapsed earlier later : Nat) : ℚ) = (later : ℚ) - earlier := by
    exact_mod_cast congrArg (fun value : Int => (value : ℚ)) whole
  rw [cast, seconds, seconds, sub_div]

def Bucket.filled (capacity : Nat) (bucket : Bucket ℚ) (now : Int) : ℚ :=
  refill capacity bucket.tokens (elapsed bucket.lastRefill now)

theorem Bucket.spend_rat (capacity : Nat) (bucket : Bucket ℚ) (now : Int) :
    bucket.spend capacity now =
      if bucket.filled capacity now < 1 then (false, ⟨bucket.filled capacity now, now⟩)
      else (true, ⟨bucket.filled capacity now - 1, now⟩) := by
  have unfolded : bucket.spend capacity now =
      if decide (bucket.filled capacity now < ((1 : Nat) : ℚ)) then
        (false, ⟨bucket.filled capacity now, now⟩)
      else (true, ⟨bucket.filled capacity now - ((1 : Nat) : ℚ), now⟩) := rfl
  rw [unfolded]
  simp

/-! ## Between nothing and full -/

def Bucket.Sound (capacity : Nat) (bucket : Bucket ℚ) : Prop :=
  0 ≤ bucket.tokens ∧ bucket.tokens ≤ capacity

theorem Bucket.filled_le (capacity : Nat) (bucket : Bucket ℚ) (now : Int) :
    bucket.filled capacity now ≤ capacity := by
  rw [Bucket.filled, refill_rat]
  exact min_le_right _ _

theorem Bucket.filled_nonneg (capacity : Nat) (bucket : Bucket ℚ) (now : Int)
    (sound : 0 ≤ bucket.tokens) :
    0 ≤ bucket.filled capacity now := by
  rw [Bucket.filled, refill_rat]
  exact le_min (by positivity) (by positivity)

theorem Bucket.sound_spend (capacity : Nat) (bucket : Bucket ℚ) (now : Int)
    (sound : bucket.Sound capacity) :
    (bucket.spend capacity now).2.Sound capacity := by
  have least := bucket.filled_nonneg capacity now sound.1
  have most := bucket.filled_le capacity now
  rw [Bucket.spend_rat]
  split
  · exact ⟨least, most⟩
  · rename_i whole
    rw [not_lt] at whole
    exact ⟨sub_nonneg.mpr whole, by show bucket.filled capacity now - 1 ≤ capacity; linarith⟩

theorem Bucket.sound_first (capacity : Nat) (positive : 1 ≤ capacity) (now : Int) :
    (Bucket.first capacity now : Bucket ℚ).Sound capacity := by
  have least : (1 : ℚ) ≤ capacity := by exact_mod_cast positive
  have unfolded : (Bucket.first capacity now : Bucket ℚ) = ⟨capacity - ((1 : Nat) : ℚ), now⟩ := rfl
  rw [unfolded]
  refine ⟨?_, ?_⟩
  · show (0 : ℚ) ≤ capacity - ((1 : Nat) : ℚ)
    push_cast
    linarith
  · show (capacity : ℚ) - ((1 : Nat) : ℚ) ≤ capacity
    push_cast
    linarith

def Buckets.Sound (buckets : Buckets ℚ) : Prop :=
  ∀ identity bucket, buckets.clients.get? identity = some bucket → bucket.Sound buckets.capacity

theorem Buckets.sound_spend (buckets : Buckets ℚ) (positive : 1 ≤ buckets.capacity)
    (sound : buckets.Sound) (identity : String) (now : Int) :
    (buckets.spend identity now).2.Sound := by
  intro other bucket held
  rw [Buckets.spend_capacity]
  rw [Buckets.get?_spend] at held
  split at held
  · cases Option.some.inj held
    cases before : buckets.clients.get? identity with
    | none => exact Bucket.sound_first _ positive now
    | some old => exact Bucket.sound_spend _ old now (sound identity old before)
  · exact sound other bucket held

theorem Buckets.sound_visits (buckets : Buckets ℚ) (positive : 1 ≤ buckets.capacity)
    (sound : buckets.Sound) (calls : List Visit) :
    (buckets.visits calls).2.Sound ∧ (buckets.visits calls).2.capacity = buckets.capacity := by
  induction calls generalizing buckets with
  | nil => exact ⟨sound, rfl⟩
  | cons visit rest ih =>
      have next := buckets.sound_spend positive sound visit.identity visit.now
      have tail := ih (buckets.spend visit.identity visit.now).2 (by simpa using positive) next
      exact ⟨tail.1, tail.2.trans (buckets.spend_capacity _ _)⟩

/-! ## Requests in a stretch of time -/

/-- How many requests are let through from `start` to `stop`, both included, in seconds. -/
def admittedIn (start stop : ℚ) (decisions : List (Int × Bool)) : Nat :=
  decisions.countP fun decision =>
    decision.2 && decide (start ≤ seconds decision.1) && decide (seconds decision.1 ≤ stop)

theorem seconds_le (earlier later : Int) (ordered : earlier ≤ later) :
    seconds earlier ≤ seconds later := by
  have cast : (earlier : ℚ) ≤ later := by exact_mod_cast ordered
  exact div_le_div_of_nonneg_right cast (by norm_num)

theorem spendAll_instants (capacity : Nat) (bucket : Option (Bucket ℚ)) (instants : List Int) :
    (spendAll capacity bucket instants).map Prod.fst = instants := by
  induction instants generalizing bucket with
  | nil => rfl
  | cons now rest ih => rw [spendAll, List.map_cons, ih]

theorem admittedIn_late (capacity : Nat) (bucket : Option (Bucket ℚ)) (now : Int)
    (rest : List Int) (start stop : ℚ) (ordered : ∀ later ∈ rest, now ≤ later)
    (late : stop < seconds now) :
    admittedIn start stop (spendAll capacity bucket (now :: rest)) = 0 := by
  rw [admittedIn, List.countP_eq_zero]
  intro decision member counted
  have asked : decision.1 ∈ now :: rest := by
    rw [← spendAll_instants capacity bucket (now :: rest)]
    exact List.mem_map_of_mem member
  have beyond : stop < seconds decision.1 := by
    rcases List.mem_cons.mp asked with same | later
    · rw [same]
      exact late
    · exact lt_of_lt_of_le late (seconds_le _ _ (ordered _ later))
  simp only [Bool.and_eq_true, decide_eq_true_eq] at counted
  exact absurd counted.2 (not_le.mpr beyond)

@[simp] theorem admittedIn_nil (capacity : Nat) (bucket : Option (Bucket ℚ)) (start stop : ℚ) :
    admittedIn start stop (spendAll capacity bucket []) = 0 := rfl

def price (allowed : Bool) : ℚ := if allowed then 1 else 0

theorem admittedIn_cons_le (start stop : ℚ) (decision : Int × Bool)
    (decisions : List (Int × Bool)) :
    (admittedIn start stop (decision :: decisions) : ℚ) ≤
      price decision.2 + admittedIn start stop decisions := by
  have counted : admittedIn start stop (decision :: decisions) =
      admittedIn start stop decisions +
        if (decision.2 && decide (start ≤ seconds decision.1) &&
          decide (seconds decision.1 ≤ stop)) = true then 1 else 0 := by
    rw [admittedIn, List.countP_cons]
    rfl
  rw [counted, price]
  cases decision.2 with
  | false => simp
  | true =>
      push_cast
      split <;> simp [add_comm]

/-- What a request takes and what it leaves were in the bucket when it came. -/
theorem price_add_tokens (capacity : Nat) (bucket : Bucket ℚ) (now : Int) :
    price (bucket.spend capacity now).1 + (bucket.spend capacity now).2.tokens =
      bucket.filled capacity now := by
  rw [Bucket.spend_rat]
  split
  · simp [price]
  · simp [price]

theorem filled_le_add (capacity : Nat) (bucket : Bucket ℚ) (now : Int)
    (ordered : bucket.lastRefill ≤ now) :
    bucket.filled capacity now ≤
      bucket.tokens + capacity * (seconds now - seconds bucket.lastRefill) / 60 := by
  rw [Bucket.filled, refill_rat, elapsed_cast _ _ ordered]
  exact min_le_left _ _

/-- From a bucket on, no more is let through than it holds and than is filled up meanwhile. -/
theorem admittedIn_le_tokens (capacity : Nat) (bucket : Bucket ℚ) (instants : List Int)
    (start stop : ℚ) (sound : bucket.Sound capacity)
    (ordered : instants.Pairwise fun earlier later => earlier ≤ later)
    (after : ∀ now ∈ instants, bucket.lastRefill ≤ now)
    (begun : seconds bucket.lastRefill ≤ stop) :
    (admittedIn start stop (spendAll capacity (some bucket) instants) : ℚ) ≤
      bucket.tokens + capacity * (stop - seconds bucket.lastRefill) / 60 := by
  have capacityNonneg : (0 : ℚ) ≤ capacity := Nat.cast_nonneg _
  induction instants generalizing bucket with
  | nil =>
      have gain : 0 ≤ capacity * (stop - seconds bucket.lastRefill) :=
        mul_nonneg capacityNonneg (sub_nonneg.mpr begun)
      rw [admittedIn_nil, Nat.cast_zero]
      linarith [sound.1]
  | cons now rest ih =>
      rw [List.pairwise_cons] at ordered
      have here : bucket.lastRefill ≤ now := after now (by simp)
      by_cases inTime : seconds now ≤ stop
      · have tail := ih (bucket.spend capacity now).2 (bucket.sound_spend capacity now sound)
          ordered.2 (by simpa using ordered.1) (by simpa using inTime)
        rw [spend_lastRefill] at tail
        have head := admittedIn_cons_le start stop (now, (bucket.spend capacity now).1)
          (spendAll capacity (some (bucket.spend capacity now).2) rest)
        have paid := price_add_tokens capacity bucket now
        have filled := filled_le_add capacity bucket now here
        have whole : (admittedIn start stop (spendAll capacity (some bucket) (now :: rest)) : ℚ) ≤
            bucket.filled capacity now + capacity * (stop - seconds now) / 60 := by
          rw [spendAll]
          simp only [spendOne]
          linarith
        have stretch : (capacity : ℚ) * (stop - seconds bucket.lastRefill) / 60 =
            capacity * (seconds now - seconds bucket.lastRefill) / 60 +
              capacity * (stop - seconds now) / 60 := by
          ring
        linarith
      · rw [not_le] at inTime
        rw [admittedIn_late capacity (some bucket) now rest start stop ordered.1 inTime]
        have gain : 0 ≤ capacity * (stop - seconds bucket.lastRefill) :=
          mul_nonneg capacityNonneg (sub_nonneg.mpr begun)
        push_cast
        linarith [sound.1]

theorem spendOne_sound (capacity : Nat) (positive : 1 ≤ capacity) (bucket : Option (Bucket ℚ))
    (sound : ∀ held, bucket = some held → held.Sound capacity) (now : Int) :
    (spendOne capacity bucket now).2.Sound capacity ∧
      (spendOne capacity bucket now).2.lastRefill = now ∧
      price (spendOne capacity bucket now).1 + (spendOne capacity bucket now).2.tokens ≤
        capacity := by
  cases bucket with
  | none =>
      refine ⟨Bucket.sound_first capacity positive now, rfl, ?_⟩
      show price true + ((capacity : ℚ) - ((1 : Nat) : ℚ)) ≤ capacity
      simp [price]
  | some held =>
      refine ⟨held.sound_spend capacity now (sound held rfl), spend_lastRefill _ _ _, ?_⟩
      have paid := price_add_tokens capacity held now
      have full := held.filled_le capacity now
      simp only [spendOne]
      linarith

theorem admittedIn_le (capacity : Nat) (positive : 1 ≤ capacity) (bucket : Option (Bucket ℚ))
    (instants : List Int) (start stop : ℚ) (forward : start ≤ stop)
    (sound : ∀ held, bucket = some held → held.Sound capacity)
    (ordered : instants.Pairwise fun earlier later => earlier ≤ later) :
    (admittedIn start stop (spendAll capacity bucket instants) : ℚ) ≤
      capacity + capacity * (stop - start) / 60 := by
  have capacityNonneg : (0 : ℚ) ≤ capacity := Nat.cast_nonneg _
  have gain : 0 ≤ capacity * (stop - start) := mul_nonneg capacityNonneg (sub_nonneg.mpr forward)
  induction instants generalizing bucket with
  | nil =>
      rw [admittedIn_nil, Nat.cast_zero]
      linarith
  | cons now rest ih =>
      rw [List.pairwise_cons] at ordered
      obtain ⟨nextSound, nextRefill, paid⟩ := spendOne_sound capacity positive bucket sound now
      by_cases begun : start ≤ seconds now
      · by_cases inTime : seconds now ≤ stop
        · have tail := admittedIn_le_tokens capacity (spendOne capacity bucket now).2 rest start
            stop nextSound ordered.2 (by simpa only [nextRefill] using ordered.1)
            (by simpa only [nextRefill] using inTime)
          rw [nextRefill] at tail
          have head := admittedIn_cons_le start stop (now, (spendOne capacity bucket now).1)
            (spendAll capacity (some (spendOne capacity bucket now).2) rest)
          have shorter : (capacity : ℚ) * (stop - seconds now) ≤ capacity * (stop - start) :=
            mul_le_mul_of_nonneg_left (by linarith) capacityNonneg
          rw [spendAll]
          linarith
        · rw [not_le] at inTime
          rw [admittedIn_late capacity bucket now rest start stop ordered.1 inTime]
          push_cast
          linarith
      · have early : admittedIn start stop (spendAll capacity bucket (now :: rest)) =
            admittedIn start stop (spendAll capacity (some (spendOne capacity bucket now).2) rest) := by
          rw [spendAll, admittedIn, List.countP_cons]
          simp [begun, admittedIn]
        rw [early]
        refine ih (some (spendOne capacity bucket now).2) ?_ ordered.2
        intro held same
        cases same
        exact nextSound

/-! ## Patient clients -/

def Spaced (capacity : Nat) (earlier later : Int) : Prop :=
  60 / (capacity : ℚ) ≤ seconds later - seconds earlier

theorem le_of_spaced (capacity : Nat) (earlier later : Int) (spaced : Spaced capacity earlier later) :
    earlier ≤ later := by
  have gap : (0 : ℚ) ≤ 60 / capacity := by positivity
  have ordered : seconds earlier ≤ seconds later := by
    rw [Spaced] at spaced
    linarith
  rw [seconds, seconds, div_le_div_iff_of_pos_right (by norm_num)] at ordered
  exact_mod_cast ordered

theorem one_le_filled (capacity : Nat) (positive : 1 ≤ capacity) (bucket : Bucket ℚ) (now : Int)
    (sound : bucket.Sound capacity) (spaced : Spaced capacity bucket.lastRefill now) :
    1 ≤ bucket.filled capacity now := by
  have least : (1 : ℚ) ≤ capacity := by exact_mod_cast positive
  have ordered := le_of_spaced capacity bucket.lastRefill now spaced
  rw [Spaced, div_le_iff₀ (by linarith)] at spaced
  rw [Bucket.filled, refill_rat, elapsed_cast _ _ ordered]
  refine le_min ?_ least
  have token : 1 ≤ capacity * (seconds now - seconds bucket.lastRefill) / 60 := by
    linarith
  linarith [sound.1]

theorem allowed_of_spaced (capacity : Nat) (positive : 1 ≤ capacity) (bucket : Bucket ℚ)
    (instants : List Int) (sound : bucket.Sound capacity)
    (spaced : List.IsChain (Spaced capacity) (bucket.lastRefill :: instants)) :
    ∀ decision ∈ spendAll capacity (some bucket) instants, decision.2 = true := by
  induction instants generalizing bucket with
  | nil => simp [spendAll]
  | cons now rest ih =>
      rw [List.isChain_cons_cons] at spaced
      have enough := one_le_filled capacity positive bucket now sound spaced.1
      have allowed : (bucket.spend capacity now).1 = true := by
        rw [Bucket.spend_rat, if_neg (not_lt.mpr enough)]
      intro decision member
      rw [spendAll, List.mem_cons] at member
      rcases member with rfl | member
      · exact allowed
      · exact ih (bucket.spend capacity now).2 (bucket.sound_spend capacity now sound)
          (by simpa using spaced.2) decision member

/-! ## Any run of a fresh limiter -/

/-- With exact arithmetic, whatever the other clients do: a client's tokens stay between nothing and
the capacity; while its requests come in order, a stretch of `length` seconds lets no more than
`capacity + capacity * length / 60` of them through; and if they are spaced by the time of one token,
all of them. -/
theorem bucket_rate (capacity staleAfter : Nat) (positive : 1 ≤ capacity) (identity : String)
    (calls : List Visit)
    (ordered : (instantsOf identity calls).Pairwise fun earlier later => earlier ≤ later) :
    (∀ sofar, sofar <+: calls → ∀ bucket : Bucket ℚ,
      ((Buckets.empty capacity staleAfter).visits sofar).2.clients.get? identity = some bucket →
      0 ≤ bucket.tokens ∧ bucket.tokens ≤ capacity) ∧
    (∀ start length : ℚ, 0 ≤ length →
      (admittedIn start (start + length) (decisionsOf identity
        ((Buckets.empty capacity staleAfter : Buckets ℚ).visits calls).1) : ℚ) ≤
          capacity + capacity * length / 60) ∧
    ((instantsOf identity calls).IsChain (fun earlier later =>
        60 / (capacity : ℚ) ≤ seconds later - seconds earlier) →
      ∀ decision ∈ ((Buckets.empty capacity staleAfter : Buckets ℚ).visits calls).1,
        decision.visit.identity = identity → decision.allowed = true) := by
  have fresh : (Buckets.empty capacity staleAfter : Buckets ℚ).Sound := by
    intro other bucket held
    cases held
  have alone := Buckets.decisionsOf_visits identity calls
    (Buckets.empty capacity staleAfter : Buckets ℚ)
  refine ⟨?_, ?_, ?_⟩
  · intro sofar _ bucket held
    obtain ⟨sound, same⟩ := Buckets.sound_visits _ positive fresh sofar
    have within := sound identity bucket held
    rw [same] at within
    exact within
  · intro start length nonneg
    rw [alone]
    have bound := admittedIn_le capacity positive none (instantsOf identity calls) start
      (start + length) (by linarith) (by simp) ordered
    rw [add_sub_cancel_left] at bound
    exact bound
  · intro spaced decision member own
    have listed : (decision.visit.now, decision.allowed) ∈ decisionsOf identity
        ((Buckets.empty capacity staleAfter : Buckets ℚ).visits calls).1 :=
      List.mem_map.mpr ⟨decision, List.mem_filter.mpr ⟨member, by simp [own]⟩, rfl⟩
    rw [alone] at listed
    cases asked : instantsOf identity calls with
    | nil =>
        rw [asked] at listed
        cases listed
    | cons first rest =>
        rw [asked] at listed spaced
        simp only [spendAll, List.mem_cons] at listed
        rcases listed with same | listed
        · exact congrArg Prod.snd same
        · exact allowed_of_spaced capacity positive (Bucket.first capacity first) rest
            (Bucket.sound_first capacity positive first) spaced _ listed

theorem bucket_rate_half_minutes :
    (∀ bucket : Bucket ℚ, ((Buckets.empty 2 0).visits
        [⟨"a", 0⟩, ⟨"b", 5⟩, ⟨"a", 30000000000⟩, ⟨"a", 60000000000⟩]).2.clients.get? "a" =
          some bucket → 0 ≤ bucket.tokens ∧ bucket.tokens ≤ (2 : Nat)) ∧
    (admittedIn 0 (0 + 60) (decisionsOf "a" ((Buckets.empty 2 0 : Buckets ℚ).visits
        [⟨"a", 0⟩, ⟨"b", 5⟩, ⟨"a", 30000000000⟩, ⟨"a", 60000000000⟩]).1) : ℚ) ≤
          (2 : Nat) + (2 : Nat) * 60 / 60 ∧
    ∀ decision ∈ ((Buckets.empty 2 0 : Buckets ℚ).visits
        [⟨"a", 0⟩, ⟨"b", 5⟩, ⟨"a", 30000000000⟩, ⟨"a", 60000000000⟩]).1,
      decision.visit.identity = "a" → decision.allowed = true := by
  obtain ⟨sound, rate, spaced⟩ := bucket_rate 2 0 (by decide) "a"
    [⟨"a", 0⟩, ⟨"b", 5⟩, ⟨"a", 30000000000⟩, ⟨"a", 60000000000⟩] (by decide)
  refine ⟨sound _ (List.prefix_refl _), rate 0 60 (by norm_num), spaced ?_⟩
  have asked : instantsOf "a"
      [⟨"a", 0⟩, ⟨"b", 5⟩, ⟨"a", 30000000000⟩, ⟨"a", 60000000000⟩] =
        [0, 30000000000, 60000000000] := by decide
  rw [asked]
  simp only [List.isChain_cons_cons, List.isChain_singleton, and_true, seconds]
  norm_num

end Gatehouse.Throttle

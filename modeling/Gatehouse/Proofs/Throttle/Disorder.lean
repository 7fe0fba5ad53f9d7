import Gatehouse.Proofs.Throttle.Sweeping

/-!
# Requests out of order

An instant may be read before another and still be served after it.  The bucket
then fills up by nothing, but it is dated back, and what it had been filled up
with is filled up once more when time goes on.  So the rate is bounded by the
time between the earliest and the latest request only together with the time by
which the instants go back, and without that there is no bound at all.
-/

set_option autoImplicit false

namespace Gatehouse.Throttle

/-- How many requests are let through. -/
def admitted (decisions : List (Int × Bool)) : Nat :=
  decisions.countP Prod.snd

/-- The seconds by which a row of instants goes back, over all its steps. -/
def setback : List Int → ℚ
  | [] => 0
  | [_] => 0
  | earlier :: later :: rest => max 0 (seconds earlier - seconds later) + setback (later :: rest)

/-! ## The bound -/

theorem elapsed_seconds (earlier later : Int) :
    ((elapsed earlier later : Nat) : ℚ) / 1000000000 = max 0 (seconds later - seconds earlier) := by
  by_cases ordered : earlier ≤ later
  · have forward := seconds_le earlier later ordered
    rw [elapsed_cast earlier later ordered, max_eq_right]
    linarith
  · have backward := seconds_le later earlier (by omega)
    have nothing : elapsed earlier later = 0 := by
      unfold elapsed
      omega
    rw [nothing, max_eq_left (by linarith)]
    norm_num

/-- A step fills up by the time it goes forward: by its whole length and what it goes back. -/
theorem filled_le_setback (capacity : Nat) (bucket : Bucket ℚ) (now : Int) :
    bucket.filled capacity now ≤ bucket.tokens + capacity * (seconds now -
      seconds bucket.lastRefill + max 0 (seconds bucket.lastRefill - seconds now)) / 60 := by
  have forward : max 0 (seconds now - seconds bucket.lastRefill) = seconds now -
      seconds bucket.lastRefill + max 0 (seconds bucket.lastRefill - seconds now) := by
    rcases le_total (seconds now) (seconds bucket.lastRefill) with back | on
    · rw [max_eq_left (by linarith), max_eq_right (by linarith)]
      ring
    · rw [max_eq_right (by linarith), max_eq_left (by linarith)]
      ring
  rw [Bucket.filled, refill_rat, elapsed_seconds, forward]
  exact min_le_left _ _

@[simp] theorem admitted_nil : admitted [] = 0 := rfl

theorem admitted_cons (decision : Int × Bool) (decisions : List (Int × Bool)) :
    (admitted (decision :: decisions) : ℚ) = price decision.2 + admitted decisions := by
  unfold admitted price
  rw [List.countP_cons]
  cases decision.2 with
  | false => simp
  | true =>
      push_cast
      simp [add_comm]

theorem admitted_le_tokens (capacity : Nat) (bucket : Bucket ℚ) (instants : List Int)
    (latest : Int) (sound : bucket.Sound capacity) (begun : bucket.lastRefill ≤ latest)
    (before : ∀ now ∈ instants, now ≤ latest) :
    (admitted (spendAll capacity (some bucket) instants) : ℚ) ≤
      bucket.tokens + capacity * (seconds latest - seconds bucket.lastRefill +
        setback (bucket.lastRefill :: instants)) / 60 := by
  have capacityNonneg : (0 : ℚ) ≤ capacity := Nat.cast_nonneg _
  -- the bucket stays sound, so there are tokens left to pay with when the instants run out
  induction instants generalizing bucket with
  | nil =>
      have ahead := seconds_le _ _ begun
      have gain : 0 ≤ capacity * (seconds latest - seconds bucket.lastRefill) := by
        apply mul_nonneg capacityNonneg
        linarith
      rw [spendAll, admitted_nil, setback, add_zero, Nat.cast_zero]
      linarith [sound.1]
  | cons now rest ih =>
      have next := bucket.sound_spend capacity now sound
      have tail := ih (bucket.spend capacity now).2 next
        (by simpa using before now List.mem_cons_self)
        (fun later inside => before later (List.mem_cons_of_mem now inside))
      rw [spend_lastRefill] at tail
      have paid := price_add_tokens capacity bucket now
      have filled := filled_le_setback capacity bucket now
      have whole : (admitted (spendAll capacity (some bucket) (now :: rest)) : ℚ) ≤
          bucket.filled capacity now +
            capacity * (seconds latest - seconds now + setback (now :: rest)) / 60 := by
        rw [spendAll, admitted_cons]
        simp only [spendOne]
        linarith
      -- the step's own length and setback come off the whole stretch
      have stretch : (capacity : ℚ) * (seconds latest - seconds bucket.lastRefill +
          setback (bucket.lastRefill :: now :: rest)) / 60 =
            capacity * (seconds now - seconds bucket.lastRefill +
              max 0 (seconds bucket.lastRefill - seconds now)) / 60 +
            capacity * (seconds latest - seconds now + setback (now :: rest)) / 60 := by
        rw [setback]
        ring
      linarith

theorem admitted_le (capacity : Nat) (positive : 1 ≤ capacity) (instants : List Int)
    (earliest latest : Int) (forward : earliest ≤ latest)
    (within : ∀ now ∈ instants, earliest ≤ now ∧ now ≤ latest) :
    (admitted (spendAll capacity (none : Option (Bucket ℚ)) instants) : ℚ) ≤
      capacity + capacity * (seconds latest - seconds earliest + setback instants) / 60 := by
  have capacityNonneg : (0 : ℚ) ≤ capacity := Nat.cast_nonneg _
  cases instants with
  | nil =>
      have ahead := seconds_le earliest latest forward
      have gain : 0 ≤ capacity * (seconds latest - seconds earliest) := by
        apply mul_nonneg capacityNonneg
        linarith
      rw [spendAll, admitted_nil, setback, add_zero, Nat.cast_zero]
      linarith
  | cons first rest =>
      obtain ⟨late, early⟩ := within first List.mem_cons_self
      obtain ⟨sound, dated, paid⟩ := spendOne_sound capacity positive none (by simp) first
      have tail := admitted_le_tokens capacity (spendOne capacity none first).2 rest latest sound
        (by rw [dated]; exact early)
        (fun now inside => (within now (List.mem_cons_of_mem first inside)).2)
      rw [dated] at tail
      have later := seconds_le earliest first late
      have shorter : (capacity : ℚ) * (seconds latest - seconds first + setback (first :: rest)) ≤
          capacity * (seconds latest - seconds earliest + setback (first :: rest)) := by
        apply mul_le_mul_of_nonneg_left _ capacityNonneg
        linarith
      rw [spendAll, admitted_cons]
      simp only
      linarith

/-! ## No bound without the setbacks -/

/-- To and fro between an instant and the one a minute later. -/
def seesaw : Nat → List Int
  | 0 => []
  | rounds + 1 => 0 :: (minute : Int) :: seesaw rounds

theorem mem_seesaw (rounds : Nat) (now : Int) (member : now ∈ seesaw rounds) :
    0 ≤ now ∧ now ≤ minute := by
  induction rounds with
  | zero => simp [seesaw] at member
  | succ rounds ih =>
      rcases List.mem_cons.mp member with rfl | member
      · exact ⟨le_rfl, Int.natCast_nonneg _⟩
      · rcases List.mem_cons.mp member with rfl | member
        · exact ⟨Int.natCast_nonneg _, le_rfl⟩
        · exact ih member

theorem spendOne_minute_later (capacity : Nat) (positive : 1 ≤ capacity)
    (bucket : Option (Bucket ℚ)) (sound : ∀ held, bucket = some held → held.Sound capacity) :
    spendOne capacity (some (spendOne capacity bucket 0).2) (minute : Int) =
      (true, Bucket.first capacity (minute : Int)) := by
  obtain ⟨emptied, dated, -⟩ := spendOne_sound capacity positive bucket sound 0
  apply Bucket.spend_of_idle capacity _ (minute : Int) positive emptied
  rw [dated]
  simp [elapsed]

/-- Every way back to the start earns the same minute again. -/
theorem admitted_seesaw_succ (capacity : Nat) (positive : 1 ≤ capacity) (rounds : Nat)
    (bucket : Option (Bucket ℚ)) (sound : ∀ held, bucket = some held → held.Sound capacity) :
    admitted (spendAll capacity bucket (seesaw (rounds + 1))) =
      admitted (spendAll capacity (some (Bucket.first capacity (minute : Int) : Bucket ℚ))
        (seesaw rounds)) + 1 + if (spendOne capacity bucket 0).1 then 1 else 0 := by
  unfold admitted
  rw [seesaw, spendAll, spendAll, List.countP_cons, List.countP_cons,
    spendOne_minute_later capacity positive bucket sound]
  rfl

theorem le_admitted_seesaw (capacity : Nat) (positive : 1 ≤ capacity) (rounds : Nat)
    (bucket : Option (Bucket ℚ)) (sound : ∀ held, bucket = some held → held.Sound capacity) :
    rounds ≤ admitted (spendAll capacity bucket (seesaw rounds)) := by
  induction rounds generalizing bucket with
  | zero => exact Nat.zero_le _
  | succ rounds ih =>
      rw [admitted_seesaw_succ capacity positive rounds bucket sound]
      have tail := ih (some (Bucket.first capacity (minute : Int))) (by
        intro held same
        cases same
        exact Bucket.sound_first capacity positive _)
      omega

theorem lt_admitted_seesaw (capacity : Nat) (positive : 1 ≤ capacity) (rounds : Nat) :
    rounds + 1 < admitted (spendAll capacity (none : Option (Bucket ℚ)) (seesaw (rounds + 1))) := by
  have first : (spendOne capacity (none : Option (Bucket ℚ)) 0).1 = true := rfl
  have tail := le_admitted_seesaw capacity positive rounds
    (some (Bucket.first capacity (minute : Int))) (by
      intro held same
      cases same
      exact Bucket.sound_first capacity positive _)
  rw [admitted_seesaw_succ capacity positive rounds none (by simp), first, if_pos rfl]
  omega

/-! ## Any run of a fresh limiter -/

/-- Requests of one client at these instants. -/
def requests (identity : String) (instants : List Int) : List Visit :=
  instants.map fun now => ⟨identity, now⟩

theorem instantsOf_requests (identity : String) (instants : List Int) :
    instantsOf identity (requests identity instants) = instants := by
  unfold instantsOf requests
  rw [List.filter_eq_self.mpr (by simp), List.map_map]
  exact List.map_id instants

/-- With exact arithmetic, whatever the other clients do and in whatever order a client's requests
come: no more of them are let through than the capacity, and what is filled up in the time from the
earliest to the latest together with all the time by which they go back.  The setbacks cannot be
left out: within one minute any number of requests can be let through. -/
theorem disordered_rate (capacity : Nat) (positive : 1 ≤ capacity) (staleAfter : Nat)
    (identity : String) :
    (∀ (calls : List Visit) (earliest latest : Int), earliest ≤ latest →
      (∀ now ∈ instantsOf identity calls, earliest ≤ now ∧ now ≤ latest) →
      (admitted (decisionsOf identity
        ((Buckets.empty capacity staleAfter : Buckets ℚ).visits calls).1) : ℚ) ≤
          capacity + capacity * (seconds latest - seconds earliest +
            setback (instantsOf identity calls)) / 60) ∧
    ∀ limit : Nat, ∃ calls : List Visit,
      (∀ now ∈ instantsOf identity calls, 0 ≤ now ∧ now ≤ minute) ∧
      limit < admitted (decisionsOf identity
        ((Buckets.empty capacity staleAfter : Buckets ℚ).visits calls).1) := by
  refine ⟨?_, ?_⟩
  · intro calls earliest latest forward within
    rw [Buckets.decisionsOf_visits]
    exact admitted_le capacity positive (instantsOf identity calls) earliest latest forward within
  · intro limit
    refine ⟨requests identity (seesaw (limit + 1)), ?_, ?_⟩
    · intro now member
      rw [instantsOf_requests] at member
      exact mem_seesaw (limit + 1) now member
    · have many := lt_admitted_seesaw capacity positive limit
      rw [Buckets.decisionsOf_visits, instantsOf_requests]
      exact Nat.lt_of_succ_lt many

theorem disordered_rate_one :
    (admitted (decisionsOf "a" ((Buckets.empty 1 0 : Buckets ℚ).visits
        [⟨"a", 0⟩, ⟨"b", 5⟩, ⟨"a", 60000000000⟩, ⟨"a", 0⟩, ⟨"a", 60000000000⟩]).1) : ℚ) ≤ 3 ∧
    ∃ calls : List Visit, (∀ now ∈ instantsOf "a" calls, 0 ≤ now ∧ now ≤ minute) ∧
      1000 < admitted (decisionsOf "a" ((Buckets.empty 1 0 : Buckets ℚ).visits calls).1) := by
  obtain ⟨bound, unbounded⟩ := disordered_rate 1 le_rfl 0 "a"
  refine ⟨?_, unbounded 1000⟩
  have asked : instantsOf "a"
      [⟨"a", 0⟩, ⟨"b", 5⟩, ⟨"a", 60000000000⟩, ⟨"a", 0⟩, ⟨"a", 60000000000⟩] =
        [0, 60000000000, 0, 60000000000] := by decide
  have most := bound [⟨"a", 0⟩, ⟨"b", 5⟩, ⟨"a", 60000000000⟩, ⟨"a", 0⟩, ⟨"a", 60000000000⟩]
    0 60000000000 (by decide) (by rw [asked]; decide)
  rw [asked] at most
  simp only [setback, seconds] at most
  norm_num at most
  exact_mod_cast most

/-- The time between the earliest and the latest request does not bound the rate: with a capacity of
one, two ways through the same minute let three requests through, and two would be the most. -/
theorem seesaw_overdraws :
    ¬ (admitted (decisionsOf "a" ((Buckets.empty 1 0 : Buckets ℚ).visits
        [⟨"a", 0⟩, ⟨"a", 60000000000⟩, ⟨"a", 0⟩, ⟨"a", 60000000000⟩]).1) : ℚ) ≤
      (1 : Nat) + (1 : Nat) * (seconds 60000000000 - seconds 0) / 60 := by
  have asked : instantsOf "a"
      [⟨"a", 0⟩, ⟨"a", 60000000000⟩, ⟨"a", 0⟩, ⟨"a", 60000000000⟩] = seesaw 2 := by decide
  have many := lt_admitted_seesaw 1 le_rfl 1
  rw [Buckets.decisionsOf_visits, asked, not_le]
  have three : (3 : ℚ) ≤ admitted (spendAll 1 (none : Option (Bucket ℚ)) (seesaw 2)) := by
    exact_mod_cast many
  have two : ((1 : Nat) : ℚ) + (1 : Nat) * (seconds 60000000000 - seconds 0) / 60 = 2 := by
    simp only [seconds]
    norm_num
  rw [two]
  exact lt_of_lt_of_le (by norm_num) three

end Gatehouse.Throttle

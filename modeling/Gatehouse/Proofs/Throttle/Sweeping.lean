import Gatehouse.Proofs.Throttle.BucketRate

/-!
# When sweeping is seen

A run may be interrupted by sweeps, which drop the buckets of idle clients.  A
client whose bucket was dropped comes back as a new one, with a full bucket; so
nobody sees a sweep that only drops buckets which would be full again.  A bucket
fills up in a minute, which makes this the least threshold under which sweeps
are never seen (`sweeps_unseen_iff`): below it, a client that has emptied its
bucket gains by being forgotten.
-/

set_option autoImplicit false

namespace Gatehouse.Throttle

/-! ## Runs with sweeps -/

inductive Event
  | visit (call : Visit)
  | sweep (now : Int)
  deriving DecidableEq, Repr

namespace Event

def now : Event → Int
  | .visit call => call.now
  | .sweep now => now

def visit? : Event → Option Visit
  | .visit call => some call
  | .sweep _ => none

end Event

/-- The run without its sweeps. -/
def visitsOf (events : List Event) : List Visit :=
  events.filterMap Event.visit?

def Ordered (events : List Event) : Prop :=
  (events.map Event.now).Pairwise fun earlier later => earlier ≤ later

namespace Buckets

variable {α : Type}

theorem get?_sweep (buckets : Buckets α) (now : Int) (identity : String) :
    (buckets.sweep now).2.clients.get? identity =
      (buckets.clients.get? identity).filter fun bucket =>
        decide (elapsed bucket.lastRefill now ≤ buckets.staleAfter) :=
  Table.get?_filter _ _ _

variable [Arithmetic α]

def events (buckets : Buckets α) : List Event → List Decision × Buckets α
  | [] => ([], buckets)
  | .visit call :: rest =>
    let (allowed, next) := buckets.spend call.identity call.now
    let (decisions, last) := next.events rest
    (⟨call, allowed⟩ :: decisions, last)
  | .sweep now :: rest => (buckets.sweep now).2.events rest

theorem events_visits (buckets : Buckets α) (calls : List Visit) :
    buckets.events (calls.map Event.visit) = buckets.visits calls := by
  induction calls generalizing buckets with
  | nil => rfl
  | cons visit rest ih => simp only [List.map_cons, events, visits, ih]

theorem events_append (buckets : Buckets α) (first second : List Event) :
    buckets.events (first ++ second) =
      ((buckets.events first).1 ++ ((buckets.events first).2.events second).1,
        ((buckets.events first).2.events second).2) := by
  induction first generalizing buckets with
  | nil => rfl
  | cons event rest ih =>
      cases event with
      | visit call => simp only [List.cons_append, events, ih]
      | sweep now => simp only [List.cons_append, events, ih]

@[simp] theorem spend_staleAfter (buckets : Buckets α) (identity : String) (now : Int) :
    (buckets.spend identity now).2.staleAfter = buckets.staleAfter := by
  rw [spend]
  cases buckets.clients.get? identity with
  | none => rfl
  | some bucket => rfl

end Buckets

/-! ## Buckets that are full again -/

/-- The nanoseconds in which an empty bucket fills up. -/
def minute : Nat := 60 * second

section

variable (capacity : Nat) (bucket : Bucket ℚ) (now : Int)

theorem Bucket.filled_of_idle (sound : bucket.Sound capacity)
    (idle : minute ≤ elapsed bucket.lastRefill now) : bucket.filled capacity now = capacity := by
  have whole : (60 : ℚ) ≤ (elapsed bucket.lastRefill now : ℚ) / 1000000000 := by
    have least : 60 * 1000000000 ≤ elapsed bucket.lastRefill now := idle
    rw [le_div_iff₀ (by norm_num)]
    exact_mod_cast least
  have gain : (capacity : ℚ) * 60 ≤
      capacity * ((elapsed bucket.lastRefill now : ℚ) / 1000000000) :=
    mul_le_mul_of_nonneg_left whole (Nat.cast_nonneg _)
  rw [Bucket.filled, refill_rat]
  apply min_eq_right
  linarith [sound.1]

theorem Bucket.spend_of_idle (positive : 1 ≤ capacity) (sound : bucket.Sound capacity)
    (idle : minute ≤ elapsed bucket.lastRefill now) :
    bucket.spend capacity now = (true, Bucket.first capacity now) := by
  have least : (1 : ℚ) ≤ capacity := by exact_mod_cast positive
  have first : (Bucket.first capacity now : Bucket ℚ) = ⟨capacity - ((1 : Nat) : ℚ), now⟩ := rfl
  rw [Bucket.spend_rat, bucket.filled_of_idle capacity now sound idle, if_neg (not_lt.mpr least),
    first, Nat.cast_one]

end

/-- What may be found of a bucket: itself, or nothing once it has been idle for a minute. -/
def Forgotten (now : Int) (held found : Option (Bucket ℚ)) : Prop :=
  found = held ∨
    found = none ∧ ∀ bucket, held = some bucket → minute ≤ elapsed bucket.lastRefill now

namespace Forgotten

variable {now : Int} {held found : Option (Bucket ℚ)} (forgotten : Forgotten now held found)

include forgotten

theorem later (later : Int) (ordered : now ≤ later) : Forgotten later held found := by
  rcases forgotten with same | ⟨gone, idle⟩
  · exact Or.inl same
  · refine Or.inr ⟨gone, fun bucket is => ?_⟩
    have before := idle bucket is
    simp only [elapsed] at before ⊢
    omega

theorem spendOne_eq (capacity : Nat) (positive : 1 ≤ capacity)
    (sound : ∀ bucket, held = some bucket → bucket.Sound capacity) :
    spendOne capacity found now = spendOne capacity held now := by
  rcases forgotten with rfl | ⟨rfl, idle⟩
  · rfl
  · cases held with
    | none => rfl
    | some bucket =>
        exact (bucket.spend_of_idle capacity now positive (sound bucket rfl) (idle bucket rfl)).symm

/-- A sweep that spares who came within the last minute forgets no other bucket. -/
theorem swept (staleAfter : Nat) (patient : minute ≤ staleAfter) :
    Forgotten now held
      (found.filter fun bucket => decide (elapsed bucket.lastRefill now ≤ staleAfter)) := by
  rcases forgotten with rfl | ⟨rfl, idle⟩
  · cases found with
    | none => exact Or.inl rfl
    | some bucket =>
        by_cases fresh : elapsed bucket.lastRefill now ≤ staleAfter
        · exact Or.inl (by simp [Option.filter, fresh])
        · refine Or.inr ⟨by simp [Option.filter, fresh], fun other is => ?_⟩
          cases Option.some.inj is
          omega
  · exact Or.inr ⟨rfl, idle⟩

end Forgotten

/-! ## Sweeps that are not seen -/

/-- Buckets that are swept, and the same buckets kept for ever. -/
structure Buckets.Follows (now : Int) (kept swept : Buckets ℚ) : Prop where
  capacity : swept.capacity = kept.capacity
  positive : 1 ≤ kept.capacity
  sound : kept.Sound
  patient : minute ≤ swept.staleAfter
  forgotten : ∀ identity, Forgotten now (kept.clients.get? identity) (swept.clients.get? identity)

namespace Buckets.Follows

variable {now : Int} {kept swept : Buckets ℚ} (follows : Follows now kept swept)

include follows

theorem later (later : Int) (ordered : now ≤ later) : Follows later kept swept :=
  { follows with forgotten := fun identity => (follows.forgotten identity).later later ordered }

theorem spend (identity : String) :
    (swept.spend identity now).1 = (kept.spend identity now).1 ∧
      Follows now (kept.spend identity now).2 (swept.spend identity now).2 := by
  have same := (follows.forgotten identity).spendOne_eq kept.capacity follows.positive
    (follows.sound identity)
  constructor
  · rw [spend_allowed, spend_allowed, follows.capacity, same]
  · refine ⟨by simp [follows.capacity], by simpa using follows.positive,
      kept.sound_spend follows.positive follows.sound identity now,
      by simpa using follows.patient, fun other => ?_⟩
    rw [get?_spend, get?_spend, follows.capacity, same]
    by_cases own : other = identity
    · rw [if_pos own, if_pos own]
      exact Or.inl rfl
    · rw [if_neg own, if_neg own]
      exact follows.forgotten other

theorem sweep : Follows now kept (swept.sweep now).2 := by
  refine ⟨follows.capacity, follows.positive, follows.sound, follows.patient, fun identity => ?_⟩
  rw [get?_sweep]
  exact (follows.forgotten identity).swept swept.staleAfter follows.patient

theorem decisions_eq (events : List Event)
    (ordered : (now :: events.map Event.now).Pairwise fun earlier later => earlier ≤ later) :
    (swept.events events).1 = (kept.visits (visitsOf events)).1 := by
  induction events generalizing now kept swept with
  | nil => rfl
  | cons event rest ih =>
      rw [List.map_cons, List.pairwise_cons] at ordered
      have here := follows.later event.now (ordered.1 event.now List.mem_cons_self)
      cases event with
      | visit call =>
          obtain ⟨same, next⟩ := here.spend call.identity
          have tail := ih next ordered.2
          simp only [Event.now] at same tail
          simp only [events, visitsOf, List.filterMap_cons, Event.visit?, visits, same, tail]
      | sweep instant =>
          have tail := ih here.sweep ordered.2
          simp only [Event.now] at tail
          simp only [events, visitsOf, List.filterMap_cons, Event.visit?, tail]

end Buckets.Follows

/-! ## A sweep that is seen -/

theorem spendAll_replicate (capacity : Nat) (now : Int) (count : Nat) (tokens : ℚ)
    (enough : (count : ℚ) ≤ tokens) (within : tokens ≤ capacity) :
    spendAll capacity (some ⟨tokens, now⟩) (List.replicate count now) =
      List.replicate count (now, true) := by
  induction count generalizing tokens with
  | zero => rfl
  | succ count ih =>
      have still : (⟨tokens, now⟩ : Bucket ℚ).filled capacity now = tokens := by
        rw [Bucket.filled, refill_rat]
        simpa [elapsed] using within
      have whole : ¬ tokens < 1 := by
        have least : (0 : ℚ) ≤ count := Nat.cast_nonneg _
        push_cast at enough
        linarith
      have tail := ih (tokens - 1) (by push_cast at enough; linarith) (by linarith)
      simp only [List.replicate_succ, spendAll, spendOne, Bucket.spend_rat, still, if_neg whole,
        tail]

theorem spendAll_burst (capacity : Nat) (positive : 1 ≤ capacity) (now : Int) :
    spendAll capacity (none : Option (Bucket ℚ)) (List.replicate capacity now) =
      List.replicate capacity (now, true) := by
  obtain ⟨count, rfl⟩ : ∃ count, capacity = count + 1 := ⟨capacity - 1, by omega⟩
  have first : (Bucket.first (count + 1) now : Bucket ℚ) =
      ⟨((count + 1 : Nat) : ℚ) - ((1 : Nat) : ℚ), now⟩ := rfl
  have rest := spendAll_replicate (count + 1) now count
    (((count + 1 : Nat) : ℚ) - ((1 : Nat) : ℚ)) (by push_cast; linarith) (by push_cast; linarith)
  rw [List.replicate_succ, spendAll, spendOne, first, rest, List.replicate_succ]

/-- The instants of a client that comes as often at once as the capacity says, and then once more. -/
def bursts (capacity gap : Nat) : List Int :=
  List.replicate capacity 0 ++ List.replicate capacity (gap : Int)

theorem bursts_ordered (capacity gap : Nat) :
    (bursts capacity gap).Pairwise fun earlier later => earlier ≤ later := by
  rw [bursts, List.pairwise_append]
  refine ⟨List.pairwise_replicate.mpr (Or.inr le_rfl),
    List.pairwise_replicate.mpr (Or.inr le_rfl), ?_⟩
  intro earlier first later second
  rw [List.eq_of_mem_replicate first, List.eq_of_mem_replicate second]
  exact Int.natCast_nonneg gap

theorem mem_bursts (capacity gap : Nat) (now : Int) (member : now ∈ bursts capacity gap) :
    0 ≤ now ∧ now ≤ gap := by
  rcases List.mem_append.mp member with first | second
  · rw [List.eq_of_mem_replicate first]
    omega
  · rw [List.eq_of_mem_replicate second]
    omega

theorem admittedIn_eq_length (start stop : ℚ) (decisions : List (Int × Bool))
    (allowed : ∀ decision ∈ decisions, decision.2 = true)
    (within : ∀ decision ∈ decisions, start ≤ seconds decision.1 ∧ seconds decision.1 ≤ stop) :
    admittedIn start stop decisions = decisions.length := by
  rw [admittedIn, List.countP_eq_length]
  intro decision member
  simp [allowed decision member, within decision member]

/-- Two bursts within less than a minute are more than a bucket holds. -/
theorem exists_rejected (capacity : Nat) (positive : 1 ≤ capacity) (gap : Nat)
    (short : gap < minute) :
    ∃ decision ∈ spendAll capacity (none : Option (Bucket ℚ)) (bursts capacity gap),
      decision.2 = false := by
  by_contra all
  have allowed : ∀ decision ∈ spendAll capacity (none : Option (Bucket ℚ)) (bursts capacity gap),
      decision.2 = true := by
    intro decision member
    by_contra refused
    exact all ⟨decision, member, Bool.eq_false_iff.mpr refused⟩
  have within : ∀ decision ∈ spendAll capacity (none : Option (Bucket ℚ)) (bursts capacity gap),
      seconds 0 ≤ seconds decision.1 ∧ seconds decision.1 ≤ seconds gap := by
    intro decision member
    have asked := List.mem_map_of_mem (f := Prod.fst) member
    rw [spendAll_instants] at asked
    obtain ⟨least, most⟩ := mem_bursts capacity gap decision.1 asked
    exact ⟨seconds_le _ _ least, seconds_le _ _ most⟩
  have counted := admittedIn_eq_length _ _ _ allowed within
  have length := congrArg List.length
    (spendAll_instants capacity (none : Option (Bucket ℚ)) (bursts capacity gap))
  simp only [List.length_map, bursts, List.length_append, List.length_replicate] at length
  have bound := admittedIn_le capacity positive none (bursts capacity gap) (seconds 0) (seconds gap)
    (seconds_le _ _ (Int.natCast_nonneg gap)) (by simp) (bursts_ordered capacity gap)
  rw [counted, bursts, length] at bound
  -- the bucket fills up by less than its capacity in the gap
  have early : seconds gap < 60 := by
    have less : (gap : ℚ) < 60 * 1000000000 := by
      exact_mod_cast (show gap < 60 * 1000000000 from short)
    rw [seconds, div_lt_iff₀ (by norm_num)]
    exact_mod_cast less
  have least : (1 : ℚ) ≤ capacity := by exact_mod_cast positive
  have gain : (capacity : ℚ) * seconds gap < capacity * 60 :=
    mul_lt_mul_of_pos_left early (by linarith)
  have zero : seconds 0 = 0 := by simp [seconds]
  rw [zero, sub_zero] at bound
  push_cast at bound
  linarith

/-- So many requests of a client at one instant. -/
def burst (identity : String) (count : Nat) (now : Int) : List Visit :=
  List.replicate count ⟨identity, now⟩

theorem instantsOf_burst (identity : String) (count : Nat) (now : Int) :
    instantsOf identity (burst identity count now) = List.replicate count now := by
  simp [instantsOf, burst]

theorem decisionsOf_append (identity : String) (first second : List Decision) :
    decisionsOf identity (first ++ second) =
      decisionsOf identity first ++ decisionsOf identity second := by
  simp [decisionsOf]

namespace Buckets

theorem visits_settings (buckets : Buckets ℚ) (calls : List Visit) :
    (buckets.visits calls).2.capacity = buckets.capacity ∧
      (buckets.visits calls).2.staleAfter = buckets.staleAfter := by
  induction calls generalizing buckets with
  | nil => exact ⟨rfl, rfl⟩
  | cons call rest ih =>
      have tail := ih (buckets.spend call.identity call.now).2
      rw [spend_capacity, spend_staleAfter] at tail
      exact tail

theorem lastRefill_visits (now : Int) (calls : List Visit) (same : ∀ call ∈ calls, call.now = now)
    (buckets : Buckets ℚ)
    (seen : ∀ identity bucket, buckets.clients.get? identity = some bucket →
      bucket.lastRefill = now) (identity : String) (bucket : Bucket ℚ)
    (held : (buckets.visits calls).2.clients.get? identity = some bucket) :
    bucket.lastRefill = now := by
  induction calls generalizing buckets with
  | nil => exact seen identity bucket held
  | cons call rest ih =>
      refine ih (fun other inside => same other (List.mem_cons_of_mem _ inside))
        (buckets.spend call.identity call.now).2 ?_ held
      intro other found is
      rw [get?_spend] at is
      split at is
      · cases Option.some.inj is
        rw [← same call List.mem_cons_self]
        cases buckets.clients.get? call.identity with
        | none => rfl
        | some old => exact spend_lastRefill _ _ _
      · exact seen other found is

end Buckets

section

variable (capacity staleAfter gap : Nat) (identity : String)

theorem get?_sweep_burst (stale : staleAfter < gap) :
    (((Buckets.empty capacity staleAfter : Buckets ℚ).visits
      (burst identity capacity 0)).2.sweep gap).2.clients.get? identity = none := by
  have settings := (Buckets.empty capacity staleAfter : Buckets ℚ).visits_settings
    (burst identity capacity 0)
  have dated := Buckets.lastRefill_visits 0 (burst identity capacity 0)
    (fun call member => by rw [List.eq_of_mem_replicate member])
    (Buckets.empty capacity staleAfter : Buckets ℚ) (by intro _ _ held; cases held) identity
  rw [Buckets.get?_sweep, settings.2, Option.filter_eq_none_iff]
  intro bucket held
  rw [dated bucket held]
  simpa [elapsed, Buckets.empty] using stale

theorem decisionsOf_bursts :
    decisionsOf identity ((Buckets.empty capacity staleAfter : Buckets ℚ).visits
      (burst identity capacity 0 ++ burst identity capacity gap)).1 =
        spendAll capacity (none : Option (Bucket ℚ)) (bursts capacity gap) := by
  rw [Buckets.decisionsOf_visits, bursts, ← instantsOf_burst identity capacity 0,
    ← instantsOf_burst identity capacity gap, instantsOf, instantsOf, instantsOf, List.filter_append,
    List.map_append]
  rfl

theorem decisionsOf_swept_bursts (positive : 1 ≤ capacity) (stale : staleAfter < gap) :
    decisionsOf identity ((Buckets.empty capacity staleAfter : Buckets ℚ).events
      ((burst identity capacity 0).map Event.visit ++
        .sweep gap :: (burst identity capacity gap).map Event.visit)).1 =
          (bursts capacity gap).map fun now => (now, true) := by
  have settings := (Buckets.empty capacity staleAfter : Buckets ℚ).visits_settings
    (burst identity capacity 0)
  have first : decisionsOf identity ((Buckets.empty capacity staleAfter : Buckets ℚ).visits
      (burst identity capacity 0)).1 = List.replicate capacity (0, true) := by
    rw [Buckets.decisionsOf_visits, instantsOf_burst]
    exact spendAll_burst capacity positive 0
  have second : decisionsOf identity ((((Buckets.empty capacity staleAfter : Buckets ℚ).visits
      (burst identity capacity 0)).2.sweep gap).2.visits (burst identity capacity gap)).1 =
        List.replicate capacity ((gap : Int), true) := by
    rw [Buckets.decisionsOf_visits, instantsOf_burst, get?_sweep_burst _ _ _ _ stale]
    exact (congrArg (fun capacity' => spendAll capacity' none _) settings.1).trans
      (spendAll_burst capacity positive gap)
  rw [Buckets.events_append, Buckets.events_visits, Buckets.events, Buckets.events_visits,
    decisionsOf_append, first, second, bursts, List.map_append, List.map_replicate,
    List.map_replicate]

end

/-- Some client that is rejected in the run of all these requests is let through at the same place
once there is a sweep between the first and the second of them. -/
def GainsBySweep (buckets : Buckets ℚ) (first : List Visit) (swept : Int)
    (second : List Visit) : Prop :=
  ∃ (identity : String) (position : Nat) (now : Int),
    (decisionsOf identity (buckets.events
      (first.map Event.visit ++ .sweep swept :: second.map Event.visit)).1)[position]? =
        some (now, true) ∧
    (decisionsOf identity (buckets.visits (first ++ second)).1)[position]? = some (now, false)

theorem exists_gainsBySweep (capacity : Nat) (positive : 1 ≤ capacity) (staleAfter : Nat)
    (short : staleAfter + 1 < minute) :
    ∃ (first second : List Visit) (swept : Int),
      Ordered (first.map Event.visit ++ .sweep swept :: second.map Event.visit) ∧
        GainsBySweep (.empty capacity staleAfter) first swept second := by
  obtain ⟨decision, member, refused⟩ := exists_rejected capacity positive (staleAfter + 1) short
  obtain ⟨position, bound, is⟩ := List.mem_iff_getElem.mp member
  have found : (spendAll capacity (none : Option (Bucket ℚ)) (bursts capacity (staleAfter + 1)))[
      position]? = some decision := by
    rw [List.getElem?_eq_getElem bound, is]
  have asked : (bursts capacity (staleAfter + 1))[position]? = some decision.1 := by
    rw [← spendAll_instants capacity (none : Option (Bucket ℚ)) (bursts capacity (staleAfter + 1)),
      List.getElem?_map, found]
    rfl
  refine ⟨burst "ada" capacity 0, burst "ada" capacity (staleAfter + 1 : Nat),
    (staleAfter + 1 : Nat), ?_, "ada", position, decision.1, ?_, ?_⟩
  · simp only [Ordered, burst, List.map_append, List.map_cons, List.map_replicate, Event.now,
      List.pairwise_append, List.pairwise_cons, List.mem_cons]
    refine ⟨List.pairwise_replicate.mpr (Or.inr le_rfl),
      ⟨?_, List.pairwise_replicate.mpr (Or.inr le_rfl)⟩, ?_⟩
    · intro later inside
      rw [List.eq_of_mem_replicate inside]
    · rintro earlier inside later (rfl | also)
      · rw [List.eq_of_mem_replicate inside]
        exact Int.natCast_nonneg _
      · rw [List.eq_of_mem_replicate inside, List.eq_of_mem_replicate also]
        exact Int.natCast_nonneg _
  · rw [decisionsOf_swept_bursts capacity staleAfter (staleAfter + 1) "ada" positive (by omega),
      List.getElem?_map, asked]
    rfl
  · rw [decisionsOf_bursts, found, ← refused]

/-! ## The threshold -/

theorem visitsOf_swept (first second : List Visit) (swept : Int) :
    visitsOf (first.map Event.visit ++ .sweep swept :: second.map Event.visit) =
      first ++ second := by
  have plain : ∀ calls : List Visit, (calls.map Event.visit).filterMap Event.visit? = calls := by
    intro calls
    simp [List.filterMap_map, Function.comp_def, Event.visit?]
  rw [visitsOf, List.filterMap_append, List.filterMap_cons, plain, plain]
  rfl

/-- In a run of a fresh limiter in which time does not go back, with exact arithmetic, sweeps change no
decision on any client exactly if they spare whoever came within the last minute: with a threshold of
fewer seconds than 60 there is a run in which one sweep turns a rejection into an admission. -/
theorem sweeps_unseen_iff (capacity : Nat) (positive : 1 ≤ capacity) (staleSeconds : Nat) :
    ((∀ events, Ordered events →
        ((Buckets.empty capacity (staleSeconds * second) : Buckets ℚ).events events).1 =
          ((Buckets.empty capacity (staleSeconds * second) : Buckets ℚ).visits
            (visitsOf events)).1) ↔ 60 ≤ staleSeconds) ∧
    (staleSeconds < 60 →
      ∃ (first later : List Visit) (swept : Int),
        Ordered (first.map Event.visit ++ .sweep swept :: later.map Event.visit) ∧
          GainsBySweep (.empty capacity (staleSeconds * second)) first swept later) := by
  have seen : staleSeconds < 60 → _ := fun few =>
    exists_gainsBySweep capacity positive (staleSeconds * second) (by
      simp only [minute, second]
      omega)
  refine ⟨⟨fun unseen => ?_, fun many events ordered => ?_⟩, seen⟩
  · by_contra few
    obtain ⟨first, later, swept, ordered, identity, position, now, admitted, rejected⟩ :=
      seen (by omega)
    rw [unseen _ ordered, visitsOf_swept, rejected] at admitted
    cases admitted
  · have fresh : (Buckets.empty capacity (staleSeconds * second) : Buckets ℚ).Sound := by
      intro other bucket held
      cases held
    cases events with
    | nil => rfl
    | cons event rest =>
        have follows : Buckets.Follows event.now
            (Buckets.empty capacity (staleSeconds * second) : Buckets ℚ)
            (Buckets.empty capacity (staleSeconds * second)) := {
          capacity := rfl
          positive := positive
          sound := fresh
          patient := Nat.mul_le_mul_right second many
          forgotten := fun identity => Or.inl rfl }
        refine follows.decisions_eq (event :: rest) (List.pairwise_cons.mpr ⟨?_, ordered⟩)
        intro later member
        rw [Ordered, List.map_cons, List.pairwise_cons] at ordered
        rcases List.mem_cons.mp member with rfl | inside
        · exact le_rfl
        · exact ordered.1 later inside

/-- A threshold of a minute is just enough, and one second less is not. -/
theorem sweeps_unseen_iff_minute :
    (∀ events, Ordered events →
      ((Buckets.empty 1 (60 * second) : Buckets ℚ).events events).1 =
        ((Buckets.empty 1 (60 * second) : Buckets ℚ).visits (visitsOf events)).1) ∧
    ¬ ∀ events, Ordered events →
      ((Buckets.empty 1 (59 * second) : Buckets ℚ).events events).1 =
        ((Buckets.empty 1 (59 * second) : Buckets ℚ).visits (visitsOf events)).1 := by
  refine ⟨(sweeps_unseen_iff 1 le_rfl 60).1.mpr le_rfl, fun unseen => ?_⟩
  have enough := (sweeps_unseen_iff 1 le_rfl 59).1.mp unseen
  omega

end Gatehouse.Throttle

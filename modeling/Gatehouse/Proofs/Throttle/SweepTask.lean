import Gatehouse.Proofs.Throttle.Sweeping
import Gatehouse.Throttle.Sweeper

/-!
# The sweeper at work

The sweeper is a task beside requests, a clock and a shutdown channel.  Whenever it
runs, it handles what is ready, a tick or what the channel has for it; where both
are ready, either may come first.  When a tick comes after the one that is handled
is left to a ticker.  Of the ticker it is needed that it lets no more than an
interval pass (`Prompt`), and in the end it counts for how many ticks that were
missed it makes up (`Catches`).

While a task runs, has handled a tick and has none due, nobody's bucket has been
idle for longer than the threshold and an interval (`Task.idle_le`).
-/

set_option autoImplicit false

namespace Gatehouse.Throttle.Sweeper

/-! ## The task -/

/-- The shutdown channel at its receiving end. -/
structure Channel where
  value : Bool
  /-- The value was set since the receiver looked last. -/
  unseen : Bool
  closed : Bool
  deriving DecidableEq, Repr

namespace Channel

/-- A sender that is gone sends nothing. -/
def send (value : Bool) (channel : Channel) : Channel :=
  if channel.closed then channel else ⟨value, true, false⟩

def hangUp (channel : Channel) : Channel :=
  { channel with closed := true }

/-- There is something to hear. -/
def calls (channel : Channel) : Bool :=
  channel.unseen || channel.closed

/-- What is heard: the value, if it was set, and else that the sender is gone. -/
def stops (channel : Channel) : Bool :=
  if channel.unseen then channel.value else channel.closed

def heard (channel : Channel) : Channel :=
  { channel with unseen := false }

/-- A `true` waits to be heard. -/
def pending (channel : Channel) : Bool :=
  channel.unseen && channel.value

end Channel

structure Task (α : Type) where
  clock : Nat
  sweeper : Sweeper
  buckets : Buckets α
  channel : Channel
  /-- The instants of the sweeps and what each of them returned, the latest first. -/
  sweeps : List (Nat × Nat)

inductive Move
  | visit (identity : String)
  | advance (span : Nat)
  | send (value : Bool)
  | hangUp
  /-- The task runs; each choice says what comes first where both are ready. -/
  | run (choices : List Bool)
  deriving DecidableEq, Repr

variable {α : Type} (ticker : Sweeper → Nat → Nat)

namespace Task

def launch (interval clock : Nat) (buckets : Buckets α) (channel : Channel) : Task α :=
  ⟨clock, Sweeper.start interval clock, buckets, channel, []⟩

def stopped (task : Task α) : Bool :=
  task.sweeper.stopped

def due (task : Task α) : Bool :=
  task.sweeper.due task.clock

def waits (task : Task α) : Bool :=
  task.stopped || !(task.channel.calls || task.due)

def listen (task : Task α) : Task α :=
  { task with
    sweeper := task.sweeper.signal task.channel.stops
    channel := task.channel.heard }

def sweep (task : Task α) : Task α :=
  { task with
    sweeper := { task.sweeper with nextTick := ticker task.sweeper task.clock }
    buckets := (task.buckets.sweep task.clock).2
    sweeps := (task.clock, (task.buckets.sweep task.clock).1) :: task.sweeps }

def turn (task : Task α) (listens : Bool) : Task α :=
  if task.stopped then task
  else if task.channel.calls && (listens || !task.due) then task.listen
  else if task.due then task.sweep ticker
  else task

def run (task : Task α) (choices : List Bool) : Task α :=
  choices.foldl (turn ticker) task

def move [Arithmetic α] (task : Task α) : Move → Task α
  | .visit identity => { task with buckets := (task.buckets.spend identity task.clock).2 }
  | .advance span => { task with clock := task.clock + span }
  | .send value => { task with channel := task.channel.send value }
  | .hangUp => { task with channel := task.channel.hangUp }
  | .run choices => task.run ticker choices

def moves [Arithmetic α] (task : Task α) (schedule : List Move) : Task α :=
  schedule.foldl (move ticker) task

end Task

/-! ## Tickers -/

/-- The next tick comes at most an interval after the one that is handled. -/
def Prompt (interval : Nat) : Prop :=
  ∀ sweeper now, sweeper.interval = interval → sweeper.nextTick ≤ now →
    ticker sweeper now ≤ now + interval

/-- Once so many ticks are handled at an instant, the next one lies ahead. -/
def CaughtUp (now : Nat) : Nat → Sweeper → Prop
  | 0, sweeper => now < sweeper.nextTick
  | most + 1, sweeper =>
    now < sweeper.nextTick ∨
      CaughtUp now most { sweeper with nextTick := ticker sweeper now }

/-- At no instant more than so many ticks are handled. -/
def Catches (interval most : Nat) : Prop :=
  ∀ sweeper now, sweeper.interval = interval → CaughtUp ticker now most sweeper

theorem following_prompt (interval : Nat) : Prompt following interval := by
  rintro sweeper now rfl due
  unfold following
  split <;> omega

theorem caughtUp_of_early (now : Nat) (sweeper : Sweeper) (early : now < sweeper.nextTick)
    (most : Nat) : CaughtUp ticker now most sweeper := by
  cases most with
  | zero => exact early
  | succ most => exact Or.inl early

theorem CaughtUp.handled {now most : Nat} {sweeper : Sweeper}
    (few : CaughtUp ticker now most sweeper) (ready : sweeper.nextTick ≤ now) :
    ∃ rest, most = rest + 1 ∧
      CaughtUp ticker now rest { sweeper with nextTick := ticker sweeper now } := by
  cases most with
  | zero => exact absurd few (Nat.not_lt.mpr ready)
  | succ rest => exact ⟨rest, rfl, few.resolve_left (Nat.not_lt.mpr ready)⟩

theorem caughtUp_following (now most : Nat) (sweeper : Sweeper)
    (inTime : now ≤ sweeper.nextTick + tolerance)
    (few : now < sweeper.nextTick + most * sweeper.interval) :
    CaughtUp following now most sweeper := by
  induction most generalizing sweeper with
  | zero =>
      rw [Nat.zero_mul] at few
      exact few
  | succ most ih =>
      have next : following sweeper now = sweeper.nextTick + sweeper.interval :=
        if_neg (Nat.not_lt.mpr inTime)
      rw [Nat.succ_mul] at few
      refine Or.inr (ih _ ?_ ?_)
      · change now ≤ following sweeper now + tolerance
        rw [next]
        omega
      · change now < following sweeper now + most * sweeper.interval
        rw [next]
        omega

/-- Of the ticks that are late by no more than the tolerance, all are made up for. -/
theorem following_catches (interval : Nat) (positive : 0 < interval) :
    Catches following interval (tolerance / interval + 1) := by
  rintro sweeper now rfl
  by_cases late : sweeper.nextTick + tolerance < now
  · have next : following sweeper now = now + sweeper.interval := if_pos late
    refine Or.inr (caughtUp_of_early following now _ ?_ _)
    change now < following sweeper now
    rw [next]
    exact Nat.lt_add_of_pos_right positive
  · have inTime := Nat.le_of_not_lt late
    have slack := Nat.lt_mul_div_succ tolerance positive
    rw [Nat.mul_comm] at slack
    exact caughtUp_following now _ sweeper inTime (by omega)

/-- Where ticks are further apart than one may be late, none is made up for. -/
theorem following_catches_one (interval : Nat) (apart : tolerance < interval) :
    Catches following interval 1 := by
  have few := following_catches interval (Nat.zero_lt_of_lt apart)
  rw [Nat.div_eq_of_lt apart] at few
  exact few

/-! ## What a turn does -/

namespace Task

@[simp] theorem sweep_nextTick (task : Task α) :
    (task.sweep ticker).sweeper.nextTick = ticker task.sweeper task.clock := rfl

@[simp] theorem sweep_interval (task : Task α) :
    (task.sweep ticker).sweeper.interval = task.sweeper.interval := rfl

@[simp] theorem sweep_clock (task : Task α) :
    (task.sweep ticker).clock = task.clock := rfl

@[simp] theorem sweep_channel (task : Task α) :
    (task.sweep ticker).channel = task.channel := rfl

@[simp] theorem sweep_sweeps (task : Task α) :
    (task.sweep ticker).sweeps =
      (task.clock, (task.buckets.sweep task.clock).1) :: task.sweeps := rfl

theorem due_eq (task : Task α) :
    task.due = (!task.stopped && decide (task.sweeper.nextTick ≤ task.clock)) := rfl

theorem stopped_of_not_due (task : Task α) (early : task.due = false)
    (ready : task.sweeper.nextTick ≤ task.clock) : task.stopped = true := by
  simpa [due_eq, ready] using early

theorem nextTick_le_of_due (task : Task α) (ready : task.due = true) :
    task.sweeper.nextTick ≤ task.clock := by
  simp only [due_eq, Bool.and_eq_true, decide_eq_true_eq] at ready
  exact ready.2

theorem running_of_due (task : Task α) (ready : task.due = true) :
    task.stopped = false := by
  simp only [due_eq, Bool.and_eq_true, Bool.not_eq_true'] at ready
  exact ready.1

theorem turn_cases (task : Task α) (listens : Bool) :
    (task.turn ticker listens = task ∧ task.waits = true) ∨
    (task.turn ticker listens = task.listen ∧ task.stopped = false ∧
      task.channel.calls = true) ∨
    (task.turn ticker listens = task.sweep ticker ∧ task.due = true) := by
  unfold turn waits
  cases stopped : task.stopped with
  | true => exact Or.inl ⟨rfl, rfl⟩
  | false =>
      cases calls : task.channel.calls with
      | false =>
          cases ready : task.due with
          | false => exact Or.inl ⟨rfl, rfl⟩
          | true => exact Or.inr (Or.inr ⟨rfl, rfl⟩)
      | true =>
          cases ready : task.due with
          | false => exact Or.inr (Or.inl ⟨by simp, rfl, rfl⟩)
          | true =>
              cases listens with
              | false => exact Or.inr (Or.inr ⟨rfl, rfl⟩)
              | true => exact Or.inr (Or.inl ⟨rfl, rfl, rfl⟩)

theorem turn_of_stopped (task : Task α) (stopped : task.stopped = true)
    (listens : Bool) : task.turn ticker listens = task :=
  if_pos stopped

theorem run_of_stopped (task : Task α) (stopped : task.stopped = true)
    (choices : List Bool) : task.run ticker choices = task := by
  induction choices with
  | nil => rfl
  | cons listens rest ih =>
      rw [run, List.foldl_cons, turn_of_stopped ticker task stopped]
      exact ih

theorem run_cons (task : Task α) (listens : Bool) (rest : List Bool) :
    task.run ticker (listens :: rest) = (task.turn ticker listens).run ticker rest := rfl

theorem run_append (task : Task α) (first second : List Bool) :
    task.run ticker (first ++ second) = (task.run ticker first).run ticker second :=
  List.foldl_append

theorem run_induction (keeps : Task α → Prop)
    (turns : ∀ task listens, keeps task → keeps (task.turn ticker listens)) (task : Task α)
    (start : keeps task) (choices : List Bool) : keeps (task.run ticker choices) := by
  induction choices generalizing task with
  | nil => exact start
  | cons listens rest ih => exact ih _ (turns task listens start)

theorem run_countdown (takes : Nat → Task α → Prop)
    (turns : ∀ count task listens, takes count task → takes (count - 1) (task.turn ticker listens))
    (task : Task α) (count : Nat) (start : takes count task) (choices : List Bool) :
    takes (count - choices.length) (task.run ticker choices) := by
  induction choices generalizing task count with
  | nil => exact start
  | cons listens rest ih =>
      have next := ih _ _ (turns count task listens start)
      rw [Nat.sub_sub, Nat.add_comm] at next
      exact next

/-! ## Nobody is idle for long -/

variable {interval staleAfter : Nat}

/-- What holds whenever the task has handled a tick: the next one is at most an interval away from
it, and nobody had been idle for longer than the threshold then. -/
structure Kept (interval staleAfter : Nat) (task : Task α) : Prop where
  spaced : task.sweeper.interval = interval
  threshold : task.buckets.staleAfter = staleAfter
  past : ∀ last, task.sweeps.head? = some last → last.1 ≤ task.clock
  next : ∀ last, task.sweeps.head? = some last → task.sweeper.nextTick ≤ last.1 + interval
  fresh : ∀ last, task.sweeps.head? = some last → ∀ identity bucket,
    task.buckets.clients.get? identity = some bucket → elapsed bucket.lastRefill last.1 ≤ staleAfter

theorem kept_launch (interval clock : Nat) (buckets : Buckets α) (channel : Channel) :
    Kept interval buckets.staleAfter (launch interval clock buckets channel) := by
  refine ⟨rfl, rfl, ?_, ?_, ?_⟩
  all_goals exact fun last none => absurd none (by simp [launch])

theorem get?_sweep_eq_some_iff (buckets : Buckets α) (now : Int) (identity : String)
    (bucket : Bucket α) :
    (buckets.sweep now).2.clients.get? identity = some bucket ↔
      buckets.clients.get? identity = some bucket ∧
        elapsed bucket.lastRefill now ≤ buckets.staleAfter := by
  rw [Buckets.get?_sweep, Option.filter_eq_some_iff, decide_eq_true_eq]

theorem Kept.turn (prompt : Prompt ticker interval) (task : Task α)
    (kept : Kept interval staleAfter task) (listens : Bool) :
    Kept interval staleAfter (task.turn ticker listens) := by
  rcases task.turn_cases ticker listens with ⟨same, -⟩ | ⟨same, -⟩ | ⟨same, ready⟩
  · rw [same]
    exact kept
  · rw [same]
    have sweeper : ∀ value, (task.sweeper.signal value).interval = task.sweeper.interval ∧
        (task.sweeper.signal value).nextTick = task.sweeper.nextTick := by
      intro value
      cases value <;> exact ⟨rfl, rfl⟩
    refine ⟨(sweeper _).1.trans kept.spaced, kept.threshold, kept.past, ?_, kept.fresh⟩
    intro last is
    exact (sweeper _).2.trans_le (kept.next last is)
  · rw [same]
    refine ⟨kept.spaced, kept.threshold, ?_, ?_, ?_⟩
    · rintro last ⟨⟩
      exact le_rfl
    · rintro last ⟨⟩
      exact prompt task.sweeper task.clock kept.spaced (task.nextTick_le_of_due ready)
    · rintro last ⟨⟩ identity bucket held
      rw [← kept.threshold]
      exact ((get?_sweep_eq_some_iff _ _ _ _).mp held).2

section

variable [Arithmetic α]

theorem Kept.visit (task : Task α) (kept : Kept interval staleAfter task) (identity : String) :
    Kept interval staleAfter (task.move ticker (.visit identity)) := by
  refine ⟨kept.spaced, ?_, kept.past, kept.next, ?_⟩
  · exact (Buckets.spend_staleAfter _ _ _).trans kept.threshold
  · intro last is other bucket held
    simp only [move, Buckets.get?_spend] at held
    split at held
    · cases held
      rw [spendOne_lastRefill]
      have past := kept.past last is
      unfold elapsed
      omega
    · exact kept.fresh last is other bucket held

theorem Kept.move (prompt : Prompt ticker interval) (task : Task α)
    (kept : Kept interval staleAfter task) (step : Move) :
    Kept interval staleAfter (task.move ticker step) := by
  cases step with
  | visit identity => exact kept.visit ticker task identity
  | advance span =>
      exact { kept with past := fun last is => (kept.past last is).trans (Nat.le_add_right _ _) }
  | send value => exact { kept with }
  | hangUp => exact { kept with }
  | run choices =>
      exact task.run_induction ticker (Kept interval staleAfter)
        (fun task listens kept => kept.turn ticker prompt task listens) kept choices

theorem Kept.moves (prompt : Prompt ticker interval) (schedule : List Move) (task : Task α)
    (kept : Kept interval staleAfter task) :
    Kept interval staleAfter (task.moves ticker schedule) := by
  induction schedule generalizing task with
  | nil => exact kept
  | cons step rest ih => exact ih _ (kept.move ticker prompt task step)

end

theorem Kept.idle_le (task : Task α) (kept : Kept interval staleAfter task)
    (running : task.stopped = false) (ticked : task.sweeps ≠ [])
    (early : task.due = false) (identity : String) (bucket : Bucket α)
    (held : task.buckets.clients.get? identity = some bucket) :
    elapsed bucket.lastRefill task.clock ≤ staleAfter + interval := by
  obtain ⟨last, is⟩ := Option.isSome_iff_exists.mp (List.isSome_head?.mpr ticked)
  have before : task.clock < task.sweeper.nextTick := by
    refine Nat.lt_of_not_le fun ready => ?_
    rw [task.stopped_of_not_due early ready] at running
    cases running
  have next := kept.next last is
  have past := kept.past last is
  have fresh := kept.fresh last is identity bucket held
  unfold elapsed at fresh ⊢
  omega

/-! ## What a sweep returns -/

theorem sweep_count (buckets : Buckets α) (now : Int) :
    (buckets.sweep now).1 = buckets.clients.entries.countP fun entry =>
      decide (buckets.staleAfter < elapsed entry.2.lastRefill now) := by
  have whole := buckets.clients.entries.length_eq_countP_add_countP fun entry =>
    decide (elapsed entry.2.lastRefill now ≤ buckets.staleAfter)
  have counted : (buckets.sweep now).1 = buckets.clients.entries.length -
      (buckets.clients.entries.filter fun entry =>
        decide (elapsed entry.2.lastRefill now ≤ buckets.staleAfter)).length := rfl
  rw [counted, ← List.countP_eq_length_filter]
  simp only [decide_eq_true_eq, not_le] at whole
  omega

/-- A turn sweeps on a tick that is due, or leaves buckets and sweeps as they are.  A sweep drops
exactly who has been idle for longer than the threshold, and returns how many these are. -/
theorem turn_sweeps_or_keeps (task : Task α) (listens : Bool) :
    let next := task.turn ticker listens
    (next.buckets = task.buckets ∧ next.sweeps = task.sweeps) ∨
      (task.due = true ∧
        (∀ identity bucket, next.buckets.clients.get? identity = some bucket ↔
          task.buckets.clients.get? identity = some bucket ∧
            elapsed bucket.lastRefill task.clock ≤ task.buckets.staleAfter) ∧
        next.sweeps = (task.clock, task.buckets.clients.entries.countP fun entry =>
          decide (task.buckets.staleAfter < elapsed entry.2.lastRefill task.clock)) ::
            task.sweeps) := by
  intro next
  rcases task.turn_cases ticker listens with ⟨same, -⟩ | ⟨same, -⟩ | ⟨same, ready⟩
  · have waited : next = task := same
    rw [waited]
    exact Or.inl ⟨rfl, rfl⟩
  · have heard : next = task.listen := same
    rw [heard]
    exact Or.inl ⟨rfl, rfl⟩
  · have swept : next = task.sweep ticker := same
    refine Or.inr ⟨ready, fun identity bucket => ?_, ?_⟩
    · rw [swept]
      exact get?_sweep_eq_some_iff _ _ _ _
    · rw [swept, sweep_sweeps, sweep_count]

end Task

end Gatehouse.Throttle.Sweeper

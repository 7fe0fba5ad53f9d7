import Gatehouse.Proofs.Throttle.SweepShutdown

/-!
# Signals to the sweeper

A `false` on the shutdown channel changes nothing: whatever a task can do that has
one to hear, the same task can do without it, and the other way round
(`Task.Follows`).  Together with the bound on idle buckets and the end after a
signal to stop, this is all there is to say of a run (`sweeper_bound`).
-/

set_option autoImplicit false

namespace Gatehouse.Throttle.Sweeper

variable {α : Type} (ticker : Sweeper → Nat → Nat)

namespace Task

/-- Two tasks that differ at most in a `false` that one of them has yet to hear. -/
structure Alike (one other : Task α) : Prop where
  clock : other.clock = one.clock
  sweeper : other.sweeper = one.sweeper
  buckets : other.buckets = one.buckets
  sweeps : other.sweeps = one.sweeps
  pending : other.channel.pending = one.channel.pending
  closed : other.channel.closed = one.channel.closed

namespace Alike

theorem refl (task : Task α) : Alike task task :=
  ⟨rfl, rfl, rfl, rfl, rfl, rfl⟩

theorem symm {one other : Task α} (alike : Alike one other) : Alike other one :=
  ⟨alike.clock.symm, alike.sweeper.symm, alike.buckets.symm, alike.sweeps.symm,
    alike.pending.symm, alike.closed.symm⟩

theorem trans {one other third : Task α} (first : Alike one other) (second : Alike other third) :
    Alike one third :=
  ⟨second.clock.trans first.clock, second.sweeper.trans first.sweeper,
    second.buckets.trans first.buckets, second.sweeps.trans first.sweeps,
    second.pending.trans first.pending, second.closed.trans first.closed⟩

theorem due {one other : Task α} (alike : Alike one other) : other.due = one.due := by
  unfold Task.due
  rw [alike.clock, alike.sweeper]

theorem stopped {one other : Task α} (alike : Alike one other) : other.stopped = one.stopped := by
  unfold Task.stopped
  rw [alike.sweeper]

theorem sweep {one other : Task α} (alike : Alike one other) :
    Alike (one.sweep ticker) (other.sweep ticker) := by
  refine ⟨alike.clock, ?_, ?_, ?_, alike.pending, alike.closed⟩
  · simp only [Task.sweep, alike.sweeper, alike.clock]
  · simp only [Task.sweep, alike.buckets, alike.clock]
  · simp only [Task.sweep, alike.buckets, alike.clock, alike.sweeps]

theorem listen {one other : Task α} (alike : Alike one other) (stops : one.channel.stops = true)
    (also : other.channel.stops = true) : Alike one.listen other.listen := by
  refine ⟨alike.clock, ?_, alike.buckets, alike.sweeps, rfl, alike.closed⟩
  simp only [Task.listen, stops, also, alike.sweeper]

end Alike

/-! ## Hearing a `false` -/

theorem turn_listens (task : Task α) (running : task.stopped = false)
    (calls : task.channel.calls = true) : task.turn ticker true = task.listen := by
  unfold turn
  rw [running, calls]
  rfl

theorem turn_sweeps (task : Task α) (ready : task.due = true) :
    task.turn ticker false = task.sweep ticker := by
  unfold turn
  rw [task.running_of_due ready, ready]
  simp

theorem alike_listen (task : Task α) (unseen : task.channel.unseen = true)
    (value : task.channel.value = false) : Alike task task.listen := by
  refine ⟨rfl, ?_, rfl, rfl, ?_, rfl⟩
  · simp only [listen, Channel.stops, unseen, value, if_true, signal, Bool.false_eq_true, if_false]
  · simp only [listen, Channel.heard, Channel.pending, value, Bool.and_false]

/-- A task with no `true` to hear may go on as one with nothing set. -/
theorem exists_heard (task : Task α) (running : task.stopped = false)
    (quiet : task.channel.pending = false) :
    ∃ choices, Alike task (task.run ticker choices) ∧
      (task.run ticker choices).channel.unseen = false := by
  cases unseen : task.channel.unseen with
  | false => exact ⟨[], .refl task, unseen⟩
  | true =>
      have value : task.channel.value = false := by
        rw [Channel.pending, unseen] at quiet
        exact quiet
      have hears : task.run ticker [true] = task.listen :=
        task.turn_listens ticker running (by rw [Channel.calls, unseen]; rfl)
      refine ⟨[true], ?_, ?_⟩
      · rw [hears]
        exact task.alike_listen unseen value
      · rw [hears]
        rfl

theorem run_goes_on (task : Task α) (running : task.stopped = false)
    (value : task.channel.value = false) (opened : task.channel.closed = false)
    (choices : List Bool) : (task.run ticker choices).stopped = false := by
  refine (task.run_induction ticker (fun later => later.stopped = false ∧
    later.channel.value = false ∧ later.channel.closed = false) ?_
    ⟨running, value, opened⟩ choices).1
  rintro later listens ⟨running, value, opened⟩
  rcases later.turn_cases ticker listens with ⟨same, -⟩ | ⟨same, -⟩ | ⟨same, -⟩
  · rw [same]
    exact ⟨running, value, opened⟩
  · have goesOn : later.channel.stops = false := by
      rw [Channel.stops, value, opened, ite_self]
    rw [same, listen_stopped, running, goesOn]
    exact ⟨rfl, value, opened⟩
  · rw [same]
    exact ⟨running, value, opened⟩

/-! ## One task does what the other does -/

theorem Alike.turn {one other : Task α} (alike : Alike one other) (listens : Bool) :
    ∃ choices, Alike (one.turn ticker listens) (other.run ticker choices) := by
  rcases one.turn_cases ticker listens with ⟨same, -⟩ | ⟨same, running, calls⟩ | ⟨same, ready⟩
  · exact ⟨[], by rw [same]; exact alike⟩
  · rw [same]
    have also : other.stopped = false := alike.stopped.trans running
    cases pending : one.channel.pending with
    | true =>
        -- both hear the `true`
        have truth : ∀ task : Task α, task.channel.pending = true →
            task.channel.calls = true ∧ task.channel.stops = true := by
          intro task waiting
          obtain ⟨unseen, value⟩ := Bool.and_eq_true_iff.mp waiting
          exact ⟨by rw [Channel.calls, unseen, Bool.true_or], by
            rw [Channel.stops, unseen, if_pos rfl, value]⟩
        have there := truth other (alike.pending.trans pending)
        refine ⟨[true], ?_⟩
        rw [run, List.foldl_cons, List.foldl_nil, other.turn_listens ticker also there.1]
        exact alike.listen (truth one pending).2 there.2
    | false =>
        cases unseen : one.channel.unseen with
        | true =>
            -- only this task has a `false` to hear
            have value : one.channel.value = false := by
              rw [Channel.pending, unseen] at pending
              exact pending
            exact ⟨[], (one.alike_listen unseen value).symm.trans alike⟩
        | false =>
            -- the sender is gone, which the other one hears after a `false` it may have to hear
            have closed : one.channel.closed = true := by
              rw [Channel.calls, unseen] at calls
              exact calls
            obtain ⟨choices, still, seen⟩ :=
              other.exists_heard ticker also (alike.pending.trans pending)
            have gone : (other.run ticker choices).channel.closed = true := by
              rw [still.closed, alike.closed, closed]
            have hears : (other.run ticker choices).turn ticker true =
                (other.run ticker choices).listen :=
              turn_listens ticker _ (still.stopped.trans also) (by
                rw [Channel.calls, gone, Bool.or_true])
            refine ⟨choices ++ [true], ?_⟩
            rw [run_append, run, List.foldl_cons, List.foldl_nil, hears]
            refine (alike.trans still).listen ?_ ?_
            · rw [Channel.stops, unseen, closed]
              rfl
            · rw [Channel.stops, seen, gone]
              rfl
  · refine ⟨[false], ?_⟩
    rw [same, run, List.foldl_cons, List.foldl_nil,
      other.turn_sweeps ticker (alike.due.trans ready)]
    exact alike.sweep ticker

/-- One task runs as the other does, and waits in the end if the other one waits. -/
theorem Alike.run {one other : Task α} (alike : Alike one other) (choices : List Bool) :
    ∃ others, Alike (one.run ticker choices) (other.run ticker others) ∧
      ((one.run ticker choices).waits = true → (other.run ticker others).waits = true) := by
  have turns : ∃ others, Alike (one.run ticker choices) (other.run ticker others) := by
    induction choices generalizing one other with
    | nil => exact ⟨[], alike⟩
    | cons listens rest ih =>
        obtain ⟨first, next⟩ := alike.turn ticker listens
        obtain ⟨others, last⟩ := ih next
        refine ⟨first ++ others, ?_⟩
        rw [run_append]
        exact last
  obtain ⟨others, last⟩ := turns
  generalize one.run ticker choices = done at last ⊢
  cases waits : done.waits with
  | false => exact ⟨others, last, fun ended => absurd ended Bool.false_ne_true⟩
  | true =>
      cases stopped : done.stopped with
      | true =>
          refine ⟨others, last, fun _ => ?_⟩
          rw [Task.waits, last.stopped, stopped, Bool.true_or]
      | false =>
          simp only [Task.waits, stopped, Bool.false_or, Bool.not_eq_true', Bool.or_eq_false_iff,
            Channel.calls] at waits
          obtain ⟨⟨unseen, closed⟩, early⟩ := waits
          obtain ⟨more, still, seen⟩ := (other.run ticker others).exists_heard ticker
            (last.stopped.trans stopped)
            (by rw [last.pending, Channel.pending, unseen, Bool.false_and])
          refine ⟨others ++ more, ?_, fun _ => ?_⟩
          · rw [run_append]
            exact last.trans still
          · have ended := last.trans still
            rw [run_append, Task.waits, Channel.calls, seen, ended.closed, closed, ended.due, early]
            exact Bool.or_true _

/-! ## Whole schedules -/

end Task

/-- The same move; a run may go through its turns in another way. -/
inductive Move.Same : Move → Move → Prop
  | run (choices others : List Bool) : Move.Same (.run choices) (.run others)
  | refl (step : Move) : Move.Same step step

def Move.runs : Move → Bool
  | .run _ => true
  | _ => false

namespace Task

variable [Arithmetic α]

/-- Every run of the schedule goes on until the task waits. -/
def Settles (task : Task α) : List Move → Prop
  | [] => True
  | step :: rest =>
    (step.runs = true → (task.move ticker step).waits = true) ∧
      (task.move ticker step).Settles rest

/-- Whatever one task does in a schedule, the other one does in the same schedule. -/
def Follows (one other : Task α) : Prop :=
  ∀ schedule, ∃ others, List.Forall₂ Move.Same schedule others ∧
    Alike (one.moves ticker schedule) (other.moves ticker others) ∧
    (one.Settles ticker schedule → other.Settles ticker others)

theorem Alike.move {one other : Task α} (alike : Alike one other) (step : Move) :
    ∃ also, Move.Same step also ∧ Alike (one.move ticker step) (other.move ticker also) ∧
      also.runs = step.runs ∧ (step.runs = true → (one.move ticker step).waits = true →
        (other.move ticker also).waits = true) := by
  cases step with
  | run choices =>
      obtain ⟨others, last, waits⟩ := alike.run ticker choices
      exact ⟨.run others, .run choices others, last, rfl, fun _ => waits⟩
  | visit identity =>
      refine ⟨_, .refl _, ⟨alike.clock, alike.sweeper, ?_, alike.sweeps, alike.pending,
        alike.closed⟩, rfl, fun runs => absurd runs Bool.false_ne_true⟩
      simp only [Task.move, alike.buckets, alike.clock]
  | advance span =>
      refine ⟨_, .refl _, ⟨?_, alike.sweeper, alike.buckets, alike.sweeps, alike.pending,
        alike.closed⟩, rfl, fun runs => absurd runs Bool.false_ne_true⟩
      simp only [Task.move, alike.clock]
  | send value =>
      refine ⟨_, .refl _, ⟨alike.clock, alike.sweeper, alike.buckets, alike.sweeps, ?_, ?_⟩,
        rfl, fun runs => absurd runs Bool.false_ne_true⟩
      · simp only [Task.move, Channel.send, alike.closed]
        split
        · exact alike.pending
        · rfl
      · simp only [Task.move, Channel.send, alike.closed]
        split
        · exact alike.closed
        · rfl
  | hangUp =>
      exact ⟨_, .refl _, ⟨alike.clock, alike.sweeper, alike.buckets, alike.sweeps, alike.pending,
        rfl⟩, rfl, fun runs => absurd runs Bool.false_ne_true⟩

theorem Alike.follows {one other : Task α} (alike : Alike one other) :
    Follows ticker one other := by
  intro schedule
  induction schedule generalizing one other with
  | nil => exact ⟨[], .nil, alike, id⟩
  | cons step rest ih =>
      obtain ⟨also, same, next, runs, waits⟩ := alike.move ticker step
      obtain ⟨others, rests, last, settles⟩ := ih next
      refine ⟨also :: others, .cons same rests, last, fun ⟨here, later⟩ => ⟨?_, settles later⟩⟩
      intro running
      rw [runs] at running
      exact waits running (here running)

theorem alike_send_false (task : Task α) (quiet : task.channel.pending = false) :
    Alike task (task.move ticker (.send false)) := by
  refine ⟨rfl, rfl, rfl, rfl, ?_, ?_⟩
  · simp only [Task.move, Channel.send]
    split
    · rfl
    · exact quiet.symm
  · simp only [Task.move, Channel.send]
    split
    · rfl
    · rename_i opened
      exact (Bool.eq_false_iff.mpr opened).symm

/-- A sweeper is launched, and requests, the clock and signals go on in any order.  While it runs,
has handled a tick and has none due, nobody has been idle for longer than the threshold and an
interval.  Each turn sweeps on a tick that is due or leaves the buckets alone, and a sweep drops
exactly who has been idle for longer than the threshold.  A `false` that overtakes no `true` changes
nothing.  After a signal to stop the sweeper stops as soon as it runs.  If it sweeps before, then for
ticks that were due by then: no more than the ticker makes up for at one instant, and of these sweeps
only the first can drop anybody. -/
theorem sweeper_bound (interval : Nat) (prompt : Prompt ticker interval) (most : Nat)
    (catches : Catches ticker interval most) (clock : Nat) (buckets : Buckets α)
    (channel : Channel) (schedule : List Move) :
    let task := (launch interval clock buckets channel).moves ticker schedule
    (task.stopped = false → task.sweeps ≠ [] → task.due = false →
      ∀ identity bucket, task.buckets.clients.get? identity = some bucket →
        elapsed bucket.lastRefill task.clock ≤ buckets.staleAfter + interval) ∧
    (∀ listens, let next := task.turn ticker listens
      (next.buckets = task.buckets ∧ next.sweeps = task.sweeps) ∨
        (task.due = true ∧
          (∀ identity bucket, next.buckets.clients.get? identity = some bucket ↔
            task.buckets.clients.get? identity = some bucket ∧
              elapsed bucket.lastRefill task.clock ≤ buckets.staleAfter) ∧
          next.sweeps = (task.clock, task.buckets.clients.entries.countP fun entry =>
            decide (buckets.staleAfter < elapsed entry.2.lastRefill task.clock)) ::
              task.sweeps)) ∧
    (task.channel.pending = false →
      Alike task (task.move ticker (.send false)) ∧
        Follows ticker task (task.move ticker (.send false)) ∧
        Follows ticker (task.move ticker (.send false)) task) ∧
    (∀ choices, most + 2 ≤ choices.length → (task.run ticker choices).waits = true) ∧
    ∀ signal, signal.ends = true → ∀ before, (∀ step ∈ before, step.holds = true) →
      ∀ choices, (((task.move ticker signal).moves ticker before).run ticker choices).waits =
        true →
      let now := task.clock + (before.map Move.span).sum
      let last := ((task.move ticker signal).moves ticker before).run ticker choices
      last.stopped = true ∧
        (∃ extra, last.sweeps = extra ++ task.sweeps ∧ extra.length ≤ most ∧
          (extra ≠ [] → task.sweeper.due now = true) ∧
          (∀ sweep ∈ extra, sweep.1 = now) ∧ ∀ sweep ∈ extra.dropLast, sweep.2 = 0) ∧
        ∀ later, (last.moves ticker later).sweeps = last.sweeps := by
  intro task
  have kept : Kept interval buckets.staleAfter task :=
    (kept_launch interval clock buckets channel).moves ticker prompt schedule _
  refine ⟨fun running ticked early => kept.idle_le task running ticked early, fun listens => ?_,
    fun quiet => ?_, fun choices enough => ?_, fun signal ends before holds choices waits => ?_⟩
  · rw [← kept.threshold]
    exact task.turn_sweeps_or_keeps ticker listens
  · have alike := task.alike_send_false ticker quiet
    exact ⟨alike, alike.follows ticker, alike.symm.follows ticker⟩
  · exact (task.ends_of_caughtUp ticker most (catches _ _ kept.spaced)).run_waits ticker choices enough
  · obtain ⟨stopped, ⟨extra, swept, sweeps⟩, later⟩ :=
      task.sweeps_after_end ticker signal ends before holds choices waits
    refine ⟨stopped, ⟨extra, swept, ?_, sweeps.1, sweeps.2.1, sweeps.2.2.1⟩, later⟩
    exact sweeps.2.2.2 most (kept.spaced ▸ catches)

/-- Ticks a minute apart and half a minute of patience.  The clock jumps over many ticks, which are
one; a client that came before is dropped on it and one that came after is kept.  A `true` and the
next tick come together, and the tick is handled first. -/
theorem sweeper_bound_jump :
    ∃ task last : Task Rat,
      task = (launch (60 * second) 0 (.empty 10 (30 * second)) ⟨false, false, false⟩).moves following
        [.visit "ada", .advance (1000 * second), .run [false, false, false], .visit "bob",
          .advance (50 * second)] ∧
      last = ((task.move following (.send true)).moves following
        [.advance (10 * second)]).run following [false, false, false] ∧
      (Prompt following (60 * second) ∧ Catches following (60 * second) 1) ∧
      task.sweeps = [(1000 * second, 1)] ∧
      (∀ identity bucket, task.buckets.clients.get? identity = some bucket →
        elapsed bucket.lastRefill task.clock ≤ 30 * second + 60 * second) ∧
      Follows following task (task.move following (.send false)) ∧
      last.stopped = true ∧
      ∀ later, (last.moves following later).sweeps = [(1060 * second, 1), (1000 * second, 1)] := by
  obtain ⟨task, is⟩ : ∃ task : Task Rat, task =
      (launch (60 * second) 0 (.empty 10 (30 * second)) ⟨false, false, false⟩).moves following
        [.visit "ada", .advance (1000 * second), .run [false, false, false], .visit "bob",
          .advance (50 * second)] := ⟨_, rfl⟩
  have prompt := following_prompt (60 * second)
  have catches := following_catches_one (60 * second) (by decide)
  have holds := sweeper_bound following (60 * second) prompt 1 catches 0
    (.empty 10 (30 * second) : Buckets Rat) ⟨false, false, false⟩
    [.visit "ada", .advance (1000 * second), .run [false, false, false], .visit "bob",
      .advance (50 * second)]
  rw [← is] at holds
  obtain ⟨bounded, -, unheard, -, ends⟩ := holds
  have running : task.stopped = false := by rw [is]; decide +kernel
  have early : task.due = false := by rw [is]; decide +kernel
  have quiet : task.channel.pending = false := by rw [is]; decide +kernel
  have swept : task.sweeps = [(1000 * second, 1)] := by rw [is]; decide +kernel
  have ticked : task.sweeps ≠ [] := swept ▸ List.cons_ne_nil _ _
  obtain ⟨stopped, -, ended⟩ := ends (.send true) rfl [.advance (10 * second)] (by decide)
    [false, false, false] (by rw [is]; decide +kernel)
  refine ⟨task, _, is, rfl, ⟨prompt, catches⟩, swept, bounded running ticked early,
    (unheard quiet).2.1, stopped, fun later => (ended later).trans ?_⟩
  rw [is]
  decide +kernel

/-- Ticks a millisecond apart, of which five are due when a `true` comes: all five are made up for
before it is heard.  A `false` that comes before it is heard takes it back. -/
theorem stop_made_to_wait :
    ∃ task last : Task Rat,
      task = (launch 1000000 0 (.empty 10 (30 * second)) ⟨false, false, false⟩).moves following
        [.advance 5000000] ∧
      last = (task.move following (.send true)).run following
        [false, false, false, false, false, false] ∧
      task.sweeps = [] ∧ last.waits = true ∧ last.stopped = true ∧ last.sweeps.length = 5 ∧
      ((task.move following (.send true)).run following [true]).stopped = true ∧
      ∀ choices, (((task.move following (.send true)).move following (.send false)).run following
        choices).stopped = false := by
  refine ⟨_, _, rfl, rfl, by decide +kernel, by decide +kernel, by decide +kernel,
    by decide +kernel, by decide +kernel, fun choices => ?_⟩
  exact run_goes_on following _ rfl rfl rfl choices

end Task

end Gatehouse.Throttle.Sweeper

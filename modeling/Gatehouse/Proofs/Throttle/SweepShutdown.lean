import Gatehouse.Proofs.Throttle.SweepTask

/-!
# The end of the sweeper

However a task runs between two moves of the clock, it handles no more ticks than its
ticker makes up for, and only the first of these sweeps can find anybody
(`Task.run_sweeps`).  So after a signal to stop no more than these sweeps pass, and
only for a tick that was due when the task was next to run.
-/

set_option autoImplicit false

namespace Gatehouse.Throttle.Sweeper

variable {α : Type} (ticker : Sweeper → Nat → Nat)

namespace Task

@[simp] theorem listen_interval (task : Task α) :
    task.listen.sweeper.interval = task.sweeper.interval := by
  unfold listen Sweeper.signal
  split <;> rfl

@[simp] theorem listen_nextTick (task : Task α) :
    task.listen.sweeper.nextTick = task.sweeper.nextTick := by
  unfold listen Sweeper.signal
  split <;> rfl

theorem listen_stopped (task : Task α) :
    task.listen.stopped = (task.stopped || task.channel.stops) := by
  unfold stopped listen Sweeper.signal
  cases task.channel.stops with
  | true => exact (Bool.or_true _).symm
  | false => exact (Bool.or_false _).symm

theorem due_of_listen (task : Task α) (ready : task.listen.due = true) : task.due = true := by
  simp only [due_eq, listen_nextTick, listen_stopped, Bool.and_eq_true,
    Bool.not_eq_true', Bool.or_eq_false_iff] at ready ⊢
  exact ⟨ready.1.1, ready.2⟩

theorem listen_sweeper (task : Task α) (goesOn : task.channel.stops = false) :
    task.listen.sweeper = task.sweeper := by
  rw [listen, goesOn]
  rfl

/-! ## The ticks of a run -/

/-- Nobody is left that a sweep would drop. -/
def Clean (task : Task α) : Prop :=
  (task.buckets.sweep task.clock).1 = 0

/-- A sweep leaves nobody for another one at the same instant. -/
theorem clean_sweep (task : Task α) : (task.sweep ticker).Clean := by
  have again : ((task.buckets.sweep task.clock).2.sweep task.clock).1 = 0 := by
    rw [sweep_count, List.countP_eq_zero]
    intro entry held
    have kept := (List.mem_filter.mp held).2
    rw [decide_eq_true_eq] at kept ⊢
    exact Nat.not_lt.mpr kept
  exact again

/-- The sweeps of a run, the latest first: they all come at the present instant, where a tick is due,
and all but the first drop nobody. -/
structure Extra (task : Task α) (extra : List (Nat × Nat)) : Prop where
  due : extra ≠ [] → task.due = true
  now : ∀ sweep ∈ extra, sweep.1 = task.clock
  spent : ∀ sweep ∈ extra.dropLast, sweep.2 = 0
  clean : task.Clean → ∀ sweep ∈ extra, sweep.2 = 0
  few : ∀ most, CaughtUp ticker task.clock most task.sweeper → extra.length ≤ most

theorem extra_nil (task : Task α) : Extra ticker task [] where
  due some := absurd rfl some
  now := fun _ none => absurd none List.not_mem_nil
  spent := fun _ none => absurd none List.not_mem_nil
  clean := fun _ _ none => absurd none List.not_mem_nil
  few _ _ := Nat.zero_le _

theorem Extra.listen {task : Task α} {extra : List (Nat × Nat)}
    (sweeps : Extra ticker task.listen extra) : Extra ticker task extra where
  due some := task.due_of_listen (sweeps.due some)
  now := sweeps.now
  spent := sweeps.spent
  clean := sweeps.clean
  few most caught := by
    cases stops : task.channel.stops with
    | false =>
        refine sweeps.few most ?_
        rw [task.listen_sweeper stops]
        exact caught
    | true =>
        -- who has heard that it is over sweeps no more
        have ended : task.listen.due = false := by
          rw [due_eq, listen_stopped, stops, Bool.or_true]
          rfl
        by_cases none : extra = []
        · rw [none]
          exact Nat.zero_le _
        · exact absurd (sweeps.due none) (by rw [ended]; exact Bool.false_ne_true)

theorem Extra.sweep {task : Task α} (ready : task.due = true) {extra : List (Nat × Nat)}
    (sweeps : Extra ticker (task.sweep ticker) extra) :
    Extra ticker task (extra ++ [(task.clock, (task.buckets.sweep task.clock).1)]) where
  due _ := ready
  now := by
    intro sweep held
    rcases List.mem_append.mp held with later | first
    · exact sweeps.now sweep later
    · rw [List.mem_singleton.mp first]
  spent := by
    rw [List.dropLast_concat]
    exact sweeps.clean (task.clean_sweep ticker)
  clean := by
    intro clean sweep held
    rcases List.mem_append.mp held with later | first
    · exact sweeps.clean (task.clean_sweep ticker) sweep later
    · rw [List.mem_singleton.mp first]
      exact clean
  few := by
    intro most caught
    obtain ⟨rest, rfl, next⟩ := caught.handled ticker (task.nextTick_le_of_due ready)
    rw [List.length_append, List.length_singleton]
    exact Nat.succ_le_succ (sweeps.few rest next)

theorem run_sweeps (task : Task α) (choices : List Bool) :
    ∃ extra, (task.run ticker choices).sweeps = extra ++ task.sweeps ∧
      Extra ticker task extra := by
  induction choices generalizing task with
  | nil => exact ⟨[], rfl, extra_nil ticker task⟩
  | cons listens rest ih =>
      obtain ⟨extra, swept, sweeps⟩ := ih (task.turn ticker listens)
      rw [run_cons, swept]
      rcases task.turn_cases ticker listens with ⟨same, -⟩ | ⟨same, -⟩ | ⟨same, ready⟩
      · rw [same] at sweeps ⊢
        exact ⟨extra, rfl, sweeps⟩
      · rw [same] at sweeps ⊢
        exact ⟨extra, rfl, sweeps.listen⟩
      · rw [same] at sweeps ⊢
        exact ⟨_, List.append_cons _ _ _, sweeps.sweep ticker ready⟩

/-! ## Runs end -/

/-- So many turns leave nothing to do: one for each tick, one for a value to hear, and one to hear
that the sender is gone. -/
def Ends (turns : Nat) (task : Task α) : Prop :=
  task.stopped = true ∨
    ∃ most, CaughtUp ticker task.clock most task.sweeper ∧
      most + task.channel.unseen.toNat + task.channel.closed.toNat ≤ turns

theorem Ends.waits {task : Task α} (ends : Ends ticker 0 task) : task.waits = true := by
  rcases ends with stopped | ⟨most, caught, none⟩
  · rw [Task.waits, stopped, Bool.true_or]
  · obtain ⟨rfl, unseen, closed⟩ : most = 0 ∧ task.channel.unseen.toNat = 0 ∧
        task.channel.closed.toNat = 0 := by omega
    have early : task.due = false := by
      rw [due_eq, decide_eq_false (Nat.not_le.mpr caught), Bool.and_false]
    rw [Bool.toNat_eq_zero] at unseen closed
    rw [Task.waits, Channel.calls, unseen, closed, early]
    exact Bool.or_true _

theorem Ends.listen {turns : Nat} {task : Task α} (ends : Ends ticker turns task)
    (calls : task.channel.calls = true) : Ends ticker (turns - 1) task.listen := by
  cases stops : task.channel.stops with
  | true => exact Or.inl (by rw [listen_stopped, stops, Bool.or_true])
  | false =>
      refine ends.imp (fun stopped => by rw [listen_stopped, stopped, Bool.true_or]) ?_
      rintro ⟨most, caught, enough⟩
      have value : task.channel.unseen = true := by
        unfold Channel.calls at calls
        unfold Channel.stops at stops
        cases unseen : task.channel.unseen with
        | true => rfl
        | false =>
            rw [unseen] at calls stops
            exact stops.symm.trans calls
      have heard : task.listen.channel.unseen = false ∧
          task.listen.channel.closed = task.channel.closed ∧
          task.listen.clock = task.clock := ⟨rfl, rfl, rfl⟩
      refine ⟨most, ?_, ?_⟩
      · rw [task.listen_sweeper stops, heard.2.2]
        exact caught
      · rw [value] at enough
        rw [heard.1, heard.2.1]
        simp only [Bool.toNat_false, Bool.toNat_true] at enough ⊢
        omega

theorem Ends.sweep {turns : Nat} {task : Task α} (ends : Ends ticker turns task)
    (ready : task.due = true) : Ends ticker (turns - 1) (task.sweep ticker) := by
  refine ends.imp id ?_
  rintro ⟨most, caught, enough⟩
  obtain ⟨rest, rfl, next⟩ := caught.handled ticker (task.nextTick_le_of_due ready)
  refine ⟨rest, next, ?_⟩
  rw [sweep_channel]
  omega

theorem Ends.turn (turns : Nat) (task : Task α) (listens : Bool) (ends : Ends ticker turns task) :
    Ends ticker (turns - 1) (task.turn ticker listens) := by
  rcases task.turn_cases ticker listens with ⟨same, waits⟩ | ⟨same, -, calls⟩ | ⟨same, ready⟩
  · rw [same]
    cases stopped : task.stopped with
    | true => exact Or.inl stopped
    | false =>
        -- a task that waits has nothing left to do
        simp only [Task.waits, stopped, Bool.false_or, Bool.not_eq_true', Bool.or_eq_false_iff,
          Channel.calls] at waits
        obtain ⟨⟨unseen, closed⟩, early⟩ := waits
        refine Or.inr ⟨0, ?_, ?_⟩
        · rw [due_eq, stopped, Bool.not_false, Bool.true_and, decide_eq_false_iff_not] at early
          exact Nat.lt_of_not_le early
        · rw [unseen, closed]
          exact Nat.zero_le _
  · rw [same]
    exact ends.listen ticker calls
  · rw [same]
    exact ends.sweep ticker ready

theorem ends_of_caughtUp (task : Task α) (most : Nat)
    (caught : CaughtUp ticker task.clock most task.sweeper) : Ends ticker (most + 2) task := by
  have unseen := Bool.toNat_le task.channel.unseen
  have closed := Bool.toNat_le task.channel.closed
  exact Or.inr ⟨most, caught, by omega⟩

theorem Ends.run_waits {turns : Nat} {task : Task α} (ends : Ends ticker turns task)
    (choices : List Bool) (enough : turns ≤ choices.length) :
    (task.run ticker choices).waits = true := by
  have last := task.run_countdown ticker (Ends ticker) (fun count later listens =>
    Ends.turn ticker count later listens) turns ends choices
  rw [Nat.sub_eq_zero_of_le enough] at last
  exact last.waits ticker

/-! ## A signal to stop -/

/-- A `true` waits to be heard, or the sender is gone. -/
def Doomed (task : Task α) : Prop :=
  (task.channel.pending || task.channel.closed) = true

theorem Doomed.turn (task : Task α) (doomed : task.Doomed) (listens : Bool) :
    (task.turn ticker listens).stopped = true ∨ (task.turn ticker listens).Doomed := by
  rcases task.turn_cases ticker listens with ⟨same, -⟩ | ⟨same, -⟩ | ⟨same, -⟩
  · rw [same]
    exact Or.inr doomed
  · rw [same, listen_stopped]
    unfold Doomed Channel.pending at doomed
    unfold Channel.stops
    cases unseen : task.channel.unseen with
    | false =>
        rw [unseen] at doomed
        exact Or.inl (Bool.or_eq_true_iff.mpr (Or.inr doomed))
    | true =>
        rw [unseen] at doomed
        rcases Bool.or_eq_true_iff.mp doomed with value | closed
        · exact Or.inl (Bool.or_eq_true_iff.mpr (Or.inr value))
        · exact Or.inr (Bool.or_eq_true_iff.mpr (Or.inr closed))
  · rw [same]
    exact Or.inr doomed

theorem Doomed.stopped (task : Task α) (doomed : task.Doomed) (choices : List Bool)
    (waits : (task.run ticker choices).waits = true) :
    (task.run ticker choices).stopped = true := by
  have kept := task.run_induction ticker
    (fun later => later.stopped = true ∨ later.Doomed)
    (fun later listens kept => kept.elim
      (fun stopped => Or.inl (by rw [turn_of_stopped ticker later stopped]; exact stopped))
      (fun doomed => doomed.turn ticker later listens)) (Or.inr doomed) choices
  refine kept.elim id fun doomed => ?_
  -- who is doomed has something to hear
  have calls : (task.run ticker choices).channel.calls = true := by
    rcases Bool.or_eq_true_iff.mp doomed with pending | closed
    · exact Bool.or_eq_true_iff.mpr (Or.inl (Bool.and_eq_true_iff.mp pending).1)
    · exact Bool.or_eq_true_iff.mpr (Or.inr closed)
  unfold Task.waits at waits
  rw [calls] at waits
  simpa using waits

end Task

namespace Move

/-- A signal to stop: a `true`, or that the sender is gone. -/
def ends : Move → Bool
  | .send value => value
  | .hangUp => true
  | _ => false

/-- The task does not run, and no signal is taken back. -/
def holds : Move → Bool
  | .send value => value
  | .run _ => false
  | _ => true

def span : Move → Nat
  | .advance span => span
  | _ => 0

end Move

namespace Task

section

variable [Arithmetic α]

theorem doomed_of_ends (task : Task α) (signal : Move) (ends : signal.ends = true) :
    (task.move ticker signal).Doomed := by
  cases signal with
  | send value =>
      cases ends
      have sent : (task.move ticker (.send true)).channel = task.channel.send true := rfl
      rw [Doomed, sent, Channel.send]
      by_cases closed : task.channel.closed = true
      · rw [if_pos closed, closed, Bool.or_true]
      · rw [if_neg closed]
        rfl
  | hangUp => exact Bool.or_eq_true_iff.mpr (Or.inr rfl)
  | _ => cases ends

theorem Doomed.holds (task : Task α) (doomed : task.Doomed) (step : Move)
    (holds : step.holds = true) : (task.move ticker step).Doomed := by
  cases step with
  | send value => exact task.doomed_of_ends ticker (.send value) holds
  | hangUp => exact task.doomed_of_ends ticker .hangUp rfl
  | run choices => cases holds
  | visit identity => exact doomed
  | advance span => exact doomed

theorem moves_holds (before : List Move) (task : Task α)
    (holds : ∀ step ∈ before, step.holds = true) :
    (task.moves ticker before).sweeper = task.sweeper ∧
      (task.moves ticker before).sweeps = task.sweeps ∧
      (task.moves ticker before).clock = task.clock + (before.map Move.span).sum ∧
      (task.Doomed → (task.moves ticker before).Doomed) := by
  induction before generalizing task with
  | nil => exact ⟨rfl, rfl, rfl, id⟩
  | cons step rest ih =>
      obtain ⟨first, others⟩ := List.forall_mem_cons.mp holds
      obtain ⟨sweeper, swept, clock, doomed⟩ := ih (task.move ticker step) others
      have goes : task.moves ticker (step :: rest) =
          (task.move ticker step).moves ticker rest := rfl
      have here : (task.move ticker step).sweeper = task.sweeper ∧
          (task.move ticker step).sweeps = task.sweeps ∧
          (task.move ticker step).clock = task.clock + step.span := by
        cases step with
        | run choices => cases first
        | _ => exact ⟨rfl, rfl, rfl⟩
      rw [goes, sweeper, swept, clock, here.1, here.2.1, here.2.2, List.map_cons, List.sum_cons,
        Nat.add_assoc]
      exact ⟨rfl, rfl, rfl, fun is => doomed (is.holds ticker task step first)⟩

theorem moves_of_stopped (later : List Move) (task : Task α)
    (stopped : task.stopped = true) :
    (task.moves ticker later).sweeps = task.sweeps := by
  induction later generalizing task with
  | nil => rfl
  | cons step rest ih =>
      have here : (task.move ticker step).stopped = true ∧
          (task.move ticker step).sweeps = task.sweeps := by
        cases step with
        | run choices =>
            rw [move, run_of_stopped ticker task stopped]
            exact ⟨stopped, rfl⟩
        | _ => exact ⟨stopped, rfl⟩
      exact (ih _ here.1).trans here.2

/-- After a signal to stop the task stops as soon as it runs, and sweeps only for ticks that are due
then. -/
theorem sweeps_after_end (task : Task α) (signal : Move) (ends : signal.ends = true)
    (before : List Move) (holds : ∀ step ∈ before, step.holds = true) (choices : List Bool)
    (waits : (((task.move ticker signal).moves ticker before).run ticker choices).waits = true) :
    let now := task.clock + (before.map Move.span).sum
    let last := ((task.move ticker signal).moves ticker before).run ticker choices
    last.stopped = true ∧
      (∃ extra, last.sweeps = extra ++ task.sweeps ∧
        (extra ≠ [] → task.sweeper.due now = true) ∧
        (∀ sweep ∈ extra, sweep.1 = now) ∧ (∀ sweep ∈ extra.dropLast, sweep.2 = 0) ∧
        ∀ most, Catches ticker task.sweeper.interval most → extra.length ≤ most) ∧
      ∀ later, (last.moves ticker later).sweeps = last.sweeps := by
  intro now last
  have signalled : (task.move ticker signal).sweeper = task.sweeper ∧
      (task.move ticker signal).sweeps = task.sweeps ∧
      (task.move ticker signal).clock = task.clock := by
    cases signal with
    | run choices => cases ends
    | advance span => cases ends
    | _ => exact ⟨rfl, rfl, rfl⟩
  obtain ⟨sweeper, swept, clock, doomed⟩ := moves_holds ticker before (task.move ticker signal) holds
  rw [signalled.1] at sweeper
  rw [signalled.2.1] at swept
  rw [signalled.2.2] at clock
  have stopped := (doomed (task.doomed_of_ends ticker signal ends)).stopped ticker _ choices waits
  refine ⟨stopped, ?_, fun later => moves_of_stopped ticker later last stopped⟩
  obtain ⟨extra, last, sweeps⟩ :=
    run_sweeps ticker ((task.move ticker signal).moves ticker before) choices
  have few := sweeps.few
  have ready := sweeps.due
  have here := sweeps.now
  rw [swept] at last
  rw [due, sweeper, clock] at ready
  rw [clock] at here
  rw [sweeper, clock] at few
  exact ⟨extra, last, ready, here, sweeps.spent, fun most catches => few most (catches _ _ rfl)⟩

end

end Task

end Gatehouse.Throttle.Sweeper

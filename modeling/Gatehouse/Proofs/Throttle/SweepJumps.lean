import Gatehouse.Proofs.Throttle.SweepShutdown

/-!
# Jumps of the clock

The sweeper has a function for what it does when the clock jumps, which handles
what is due at one instant.  A task that nobody calls and that runs until it waits
has done the same (`Task.run_eq_jump`).
-/

set_option autoImplicit false

namespace Gatehouse.Throttle.Sweeper.Task

variable {α : Type}

theorem turn_of_waits (ticker : Sweeper → Nat → Nat) (task : Task α) (waits : task.waits = true)
    (listens : Bool) : task.turn ticker listens = task := by
  cases stopped : task.stopped with
  | true => exact turn_of_stopped ticker task stopped listens
  | false =>
      simp only [Task.waits, stopped, Bool.false_or, Bool.not_eq_true',
        Bool.or_eq_false_iff] at waits
      rw [turn, stopped, waits.1, waits.2]
      rfl

theorem run_of_waits (ticker : Sweeper → Nat → Nat) (task : Task α) (waits : task.waits = true)
    (choices : List Bool) : task.run ticker choices = task := by
  induction choices with
  | nil => rfl
  | cons listens rest ih =>
      rw [run, List.foldl_cons, turn_of_waits ticker task waits]
      exact ih

theorem turn_of_quiet (ticker : Sweeper → Nat → Nat) (task : Task α)
    (quiet : task.channel.calls = false) (ready : task.due = true) (listens : Bool) :
    task.turn ticker listens = task.sweep ticker := by
  rw [turn, task.running_of_due ready, quiet]
  exact if_pos ready

theorem settle_of_due (now fuel : Nat) (sweeper : Sweeper) (buckets : Buckets α)
    (ready : sweeper.due now = true) :
    settle now (fuel + 1) sweeper buckets =
      settle now fuel (tick now sweeper buckets).1 (tick now sweeper buckets).2 := by
  rw [settle, if_pos ready]

theorem settle_of_not_due (now fuel : Nat) (sweeper : Sweeper) (buckets : Buckets α)
    (early : sweeper.due now = false) : settle now fuel sweeper buckets = (sweeper, buckets) := by
  cases fuel with
  | zero => rfl
  | succ fuel => rw [settle, if_neg (Bool.eq_false_iff.mp early)]

theorem tick_eq_sweep (task : Task α) :
    tick task.clock task.sweeper task.buckets =
      ((task.sweep following).sweeper, (task.sweep following).buckets) := rfl

theorem run_settle (choices : List Bool) (task : Task α) (quiet : task.channel.calls = false) :
    ((task.run following choices).sweeper, (task.run following choices).buckets) =
      settle task.clock choices.length task.sweeper task.buckets := by
  induction choices generalizing task with
  | nil => rfl
  | cons listens rest ih =>
      rw [run_cons, List.length_cons]
      cases ready : task.due with
      | true =>
          have next := ih (task.sweep following) (by rw [sweep_channel, quiet])
          rw [turn_of_quiet following task quiet ready, next, settle_of_due _ _ _ _ ready, tick_eq_sweep, sweep_clock]
      | false =>
          have waits : task.waits = true := by
            rw [Task.waits, quiet, ready]
            exact Bool.or_true _
          rw [turn_of_waits following task waits, run_of_waits following task waits,
            settle_of_not_due _ _ _ _ ready]

theorem ends_of_quiet (task : Task α) (positive : 0 < task.sweeper.interval)
    (quiet : task.channel.calls = false) :
    Ends following (tolerance / task.sweeper.interval + 1) task := by
  obtain ⟨unseen, closed⟩ := Bool.or_eq_false_iff.mp quiet
  refine Or.inr ⟨_, following_catches _ positive _ _ rfl, ?_⟩
  rw [unseen, closed]
  exact Nat.le_refl _

/-- A task that nobody calls and that runs until it waits has done what a jump of the clock does. -/
theorem run_eq_jump (task : Task α) (positive : 0 < task.sweeper.interval)
    (quiet : task.channel.calls = false) (choices : List Bool)
    (waits : (task.run following choices).waits = true) :
    ((task.run following choices).sweeper, (task.run following choices).buckets) =
      jump task.clock task.sweeper task.buckets := by
  have ends := task.ends_of_quiet positive quiet
  have most : tolerance / task.sweeper.interval + 1 ≤ tolerance + 2 :=
    Nat.le_succ_of_le (Nat.succ_le_succ (Nat.div_le_self _ _))
  rw [jump]
  generalize tolerance / task.sweeper.interval + 1 = turns at ends most
  generalize tolerance + 2 = fuel at most ⊢
  have also := ends.run_waits following (List.replicate fuel false)
    (by rw [List.length_replicate]; exact most)
  -- neither run goes on when the turns of the other are added to it
  have one := run_settle (choices ++ List.replicate fuel false) task quiet
  have other := run_settle (List.replicate fuel false ++ choices) task quiet
  rw [run_append, run_of_waits following _ waits, List.length_append, List.length_replicate] at one
  rw [run_append, run_of_waits following _ also, List.length_append, List.length_replicate,
    run_settle _ task quiet, List.length_replicate] at other
  rw [one, other, Nat.add_comm]

end Gatehouse.Throttle.Sweeper.Task

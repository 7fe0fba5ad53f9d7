import Gatehouse.Proofs.Service.Runs

/-!
# Flows side by side

Any number of flows in one world, which answers their calls one at a time.  An
event is a turn of one of the flows or a new reading of the wall clock, and the
order of the events is anybody's choice.  A flow that makes a bounded number of
calls, whatever the replies, is over after as many turns of its own.
-/

set_option autoImplicit false

namespace Gatehouse.Service

variable {ν α β : Type}

inductive Crew.Event
  | turn (number : Nat)
  | wall (now : Instant)
  deriving DecidableEq

structure Crew (ν α : Type) where
  world : World ν
  flows : List (Flow α)

section

variable [Throttle.Arithmetic ν]

/-- Answers the next call of a flow. -/
def Flow.turn (surroundings : Surroundings) : Flow α → World ν → Flow α × World ν
  | .done value, world => (.done value, world)
  | .ask call next, world =>
    let (reply, world) := world.answer surroundings call
    (next reply, world)

namespace Crew

def after (surroundings : Surroundings) (crew : Crew ν α) : Crew.Event → Crew ν α
  | .turn number =>
    match crew.flows[number]? with
    | none => crew
    | some flow =>
      let (rest, world) := flow.turn surroundings crew.world
      ⟨world, crew.flows.set number rest⟩
  | .wall now => { crew with world := { crew.world with wall := now } }

def afterAll (surroundings : Surroundings) (crew : Crew ν α) (events : List Crew.Event) :
    Crew ν α :=
  events.foldl (after surroundings) crew

end Crew

end

/-- Every flow is as it should be, going by its number. -/
def Crew.Every (crew : Crew ν α) (holds : Nat → Flow α → Prop) : Prop :=
  ∀ number flow, crew.flows[number]? = some flow → holds number flow

/-- What a flow has come to, once it is over. -/
def Crew.result? (crew : Crew ν α) (number : Nat) : Option α :=
  match crew.flows[number]? with
  | some (.done value) => some value
  | _ => none

theorem Crew.result?_eq_some_iff (crew : Crew ν α) (number : Nat) (value : α) :
    crew.result? number = some value ↔ crew.flows[number]? = some (.done value) := by
  rw [Crew.result?]
  cases crew.flows[number]? with
  | none => simp
  | some flow => cases flow <;> simp

/-! ## Flows of bounded length -/

/-- Whatever the replies, the flow makes no more than so many calls. -/
def Flow.Within : Nat → Flow α → Prop
  | _, .done _ => True
  | 0, .ask _ _ => False
  | calls + 1, .ask _ next => ∀ reply, (next reply).Within calls

namespace Flow

theorem within_done (value : α) (calls : Nat) : (Flow.done value).Within calls := by
  cases calls <;> trivial

theorem Within.mono (flow : Flow α) (calls more : Nat) (within : flow.Within calls)
    (fewer : calls ≤ more) : flow.Within more := by
  induction flow generalizing calls more with
  | done value => exact within_done value more
  | ask call next ih =>
      cases calls with
      | zero => exact within.elim
      | succ calls =>
          obtain ⟨rest, rfl⟩ : ∃ rest, more = rest + 1 := ⟨more - 1, by omega⟩
          intro reply
          exact ih reply calls rest (within reply) (by omega)

theorem Within.bind (flow : Flow α) (next : α → Flow β) (calls more : Nat)
    (first : flow.Within calls) (second : ∀ value, (next value).Within more) :
    (flow.bind next).Within (calls + more) := by
  induction flow generalizing calls with
  | done value => exact (second value).mono _ _ _ (by omega)
  | ask call rest ih =>
      cases calls with
      | zero => exact first.elim
      | succ calls =>
          rw [Nat.succ_add]
          intro reply
          exact ih reply calls (first reply)

theorem Within.andThen (flow : Flow (Outcome α)) (next : α → Flow (Outcome β))
    (calls more : Nat) (first : flow.Within calls) (second : ∀ value, (next value).Within more) :
    (flow.andThen next).Within (calls + more) := by
  apply Within.bind flow _ calls more first
  intro outcome
  cases outcome with
  | ok value => exact second value
  | error fault => exact within_done _ more

theorem within_askStore (limit : Nat) (request : StoreCall α) :
    (Flow.askStore limit request).Within 1 := by
  intro reply
  cases reply <;> trivial

theorem Within.turn [Throttle.Arithmetic ν] (surroundings : Surroundings) (flow : Flow α)
    (calls : Nat) (within : flow.Within calls) (world : World ν) :
    (flow.turn surroundings world).1.Within (calls - 1) := by
  cases flow with
  | done value => exact within_done value _
  | ask call next =>
      cases calls with
      | zero => exact within.elim
      | succ calls => exact within (world.answer surroundings call).1

theorem Quiet.turn [Throttle.Arithmetic ν] (surroundings : Surroundings) (flow : Flow α)
    (quiet : flow.Quiet) (world : World ν) :
    (flow.turn surroundings world).1.Quiet ∧ world.Still (flow.turn surroundings world).2 := by
  cases flow with
  | done value => exact ⟨trivial, rfl, rfl, rfl⟩
  | ask call next => exact ⟨quiet.2 _, world.still_answer surroundings call quiet.1⟩

/-- A prompt store answers in one turn, and what follows goes on with its answer. -/
theorem turn_askStore [Throttle.Arithmetic ν] (surroundings : Surroundings) (limit : Nat)
    (prompt : surroundings.Prompt limit) (request : StoreCall α)
    (next : α → Flow (Outcome β)) (world : World ν) :
    ((askStore limit request).andThen next).turn surroundings world =
      ((Flow.done (Outcome.ofExcept
          (World.storeWork surroundings request (world.asked surroundings)).1)).andThen next,
        (World.storeWork surroundings request (world.asked surroundings)).2) := by
  have answered := world.answer_store surroundings limit prompt request
  rw [askStore, Flow.andThen, Flow.bind, turn, answered]
  rfl

end Flow

namespace Crew

variable [Throttle.Arithmetic ν] (surroundings : Surroundings)

theorem after_turn (crew : Crew ν α) (number : Nat) (flow : Flow α)
    (present : crew.flows[number]? = some flow) :
    crew.after surroundings (.turn number) =
      ⟨(flow.turn surroundings crew.world).2,
        crew.flows.set number (flow.turn surroundings crew.world).1⟩ := by
  simp only [after, present]

theorem after_turn_absent (crew : Crew ν α) (number : Nat)
    (absent : crew.flows[number]? = none) : crew.after surroundings (.turn number) = crew := by
  simp only [after, absent]

@[simp] theorem wall_after_turn (crew : Crew ν α) (number : Nat) :
    (crew.after surroundings (.turn number)).world.wall = crew.world.wall := by
  cases present : crew.flows[number]? with
  | none => rw [crew.after_turn_absent surroundings number present]
  | some flow =>
      rw [crew.after_turn surroundings number flow present]
      cases flow with
      | done value => rfl
      | ask call next => exact crew.world.wall_answer surroundings call

theorem getElem?_after_turn (crew : Crew ν α) (number : Nat) (flow : Flow α)
    (present : crew.flows[number]? = some flow) (other : Nat) :
    (crew.after surroundings (.turn number)).flows[other]? =
      if other = number then some (flow.turn surroundings crew.world).1
      else crew.flows[other]? := by
  rw [crew.after_turn surroundings number flow present]
  by_cases same : other = number
  · subst same
    obtain ⟨bound, -⟩ := List.getElem?_eq_some_iff.mp present
    rw [if_pos rfl, List.getElem?_set_self bound]
  · rw [if_neg same, List.getElem?_set_ne (Ne.symm same)]

theorem every_after_turn (crew : Crew ν α) (number : Nat) (flow : Flow α)
    (present : crew.flows[number]? = some flow) (holds : Nat → Flow α → Prop)
    (moved : holds number (flow.turn surroundings crew.world).1)
    (others : ∀ other stranger, other ≠ number → crew.flows[other]? = some stranger →
      holds other stranger) : (crew.after surroundings (.turn number)).Every holds := by
  intro other later found
  rw [crew.getElem?_after_turn surroundings number flow present] at found
  by_cases same : other = number
  · rw [if_pos same] at found
    cases found
    rw [same]
    exact moved
  · rw [if_neg same] at found
    exact others other later same found

theorem within_after (crew : Crew ν α) (event : Crew.Event) (number calls : Nat) (flow : Flow α)
    (present : crew.flows[number]? = some flow) (within : flow.Within calls) :
    ∃ later, (crew.after surroundings event).flows[number]? = some later ∧
      later.Within (calls - if event = .turn number then 1 else 0) := by
  cases event with
  | wall now => exact ⟨flow, present, by simpa using within⟩
  | turn other =>
      by_cases same : other = number
      · subst same
        rw [getElem?_after_turn surroundings crew other flow present other, if_pos rfl]
        exact ⟨_, rfl, by simpa using within.turn surroundings flow calls crew.world⟩
      · have differs : Crew.Event.turn other ≠ .turn number := by
          intro equal
          exact same (Crew.Event.turn.inj equal)
        rw [if_neg differs]
        cases there : crew.flows[other]? with
        | none =>
            rw [crew.after_turn_absent surroundings other there]
            exact ⟨flow, present, within⟩
        | some stranger =>
            rw [getElem?_after_turn surroundings crew other stranger there number,
              if_neg (Ne.symm same)]
            exact ⟨flow, present, within⟩

theorem within_afterAll (crew : Crew ν α) (events : List Crew.Event) (number calls : Nat)
    (flow : Flow α) (present : crew.flows[number]? = some flow) (within : flow.Within calls) :
    ∃ later, (crew.afterAll surroundings events).flows[number]? = some later ∧
      later.Within (calls - events.count (.turn number)) := by
  induction events generalizing crew calls flow with
  | nil => exact ⟨flow, present, within⟩
  | cons event events ih =>
      obtain ⟨later, there, fewer⟩ :=
        crew.within_after surroundings event number calls flow present within
      obtain ⟨last, found, few⟩ := ih (crew.after surroundings event) _ later there fewer
      refine ⟨last, found, ?_⟩
      have counted : calls - (event :: events).count (.turn number) =
          calls - (if event = .turn number then 1 else 0) - events.count (.turn number) := by
        rw [List.count_cons]
        by_cases same : event = .turn number
        · simp [same]
          omega
        · simp [same]
      rw [counted]
      exact few

/-- With as many turns as it makes calls, a flow comes to its end. -/
theorem exists_result (crew : Crew ν α) (events : List Crew.Event) (number calls : Nat)
    (flow : Flow α) (present : crew.flows[number]? = some flow) (within : flow.Within calls)
    (turns : calls ≤ events.count (.turn number)) :
    ∃ value, (crew.afterAll surroundings events).flows[number]? = some (.done value) := by
  obtain ⟨later, there, few⟩ :=
    crew.within_afterAll surroundings events number calls flow present within
  rw [Nat.sub_eq_zero_of_le turns] at few
  cases later with
  | done value => exact ⟨value, there⟩
  | ask call next => exact few.elim

end Crew

end Gatehouse.Service

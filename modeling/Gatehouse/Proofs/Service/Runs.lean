import Gatehouse.Proofs.Outcome
import Gatehouse.Service.World

/-!
# Runs of flows

A flow that is run in a world does one part after the other; one that adds no
user and asks for no identifier leaves them as they were.  A user store that
answers in time and without a failure does its work on the registry and takes
nothing but time; a healthy cache does not even take time.
-/

set_option autoImplicit false

namespace Gatehouse.Service

variable {ν : Type} {α β : Type}

section

variable [Throttle.Arithmetic ν]

namespace Flow

@[simp] theorem run_done (surroundings : Surroundings) (value : α) (world : World ν) :
    (Flow.done value).run surroundings world = (value, world) := rfl

@[simp] theorem run_stop (surroundings : Surroundings) (failure : Failure) (world : World ν) :
    (Flow.stop failure : Flow (Outcome α)).run surroundings world =
      (.error (.failure failure), world) := rfl

theorem run_ask (surroundings : Surroundings) (call : Call β) (next : β → Flow α)
    (world : World ν) :
    (Flow.ask call next).run surroundings world =
      (next (world.answer surroundings call).1).run surroundings
        (world.answer surroundings call).2 := rfl

theorem run_bind (surroundings : Surroundings) (flow : Flow α) (next : α → Flow β)
    (world : World ν) :
    (flow.bind next).run surroundings world =
      (next (flow.run surroundings world).1).run surroundings (flow.run surroundings world).2 := by
  induction flow generalizing world with
  | done value => rfl
  | ask call rest ih => exact ih _ _

theorem run_andThen (surroundings : Surroundings) (flow : Flow (Outcome α))
    (next : α → Flow (Outcome β)) (world later : World ν) (value : α)
    (first : flow.run surroundings world = (.ok value, later)) :
    (flow.andThen next).run surroundings world = (next value).run surroundings later := by
  rw [andThen, run_bind, first]

theorem run_andThen_eq_ok (surroundings : Surroundings) (flow : Flow (Outcome α))
    (next : α → Flow (Outcome β)) (world later : World ν) (value : β)
    (run : (flow.andThen next).run surroundings world = (.ok value, later)) :
    ∃ first middle, flow.run surroundings world = (.ok first, middle) ∧
      (next first).run surroundings middle = (.ok value, later) := by
  rw [andThen, run_bind] at run
  rcases begun : flow.run surroundings world with ⟨result, middle⟩
  rw [begun] at run
  cases result with
  | ok first => exact ⟨first, middle, rfl, run⟩
  | error fault => cases run

end Flow

end

/-! ## Identifiers and the user store -/

/-- The first so many identifiers that are handed out are all different. -/
def Surroundings.Distinct (surroundings : Surroundings) (count : Nat) : Prop :=
  ∀ one other, one < count → other < count → surroundings.ids one = surroundings.ids other →
    one = other

theorem Surroundings.Distinct.mono (surroundings : Surroundings) (more fewer : Nat)
    (distinct : surroundings.Distinct more) (within : fewer ≤ more) :
    surroundings.Distinct fewer := by
  intro one other first second same
  exact distinct one other (by omega) (by omega) same

/-- Every call of the user store is answered within the limit, and none fails. -/
def Surroundings.Prompt (surroundings : Surroundings) (limit : Nat) : Prop :=
  ∀ count, (surroundings.store count).delay ≤ limit ∧ (surroundings.store count).failing = none

namespace World

/-- Waiting changes nothing but the clock.  The new reading is kept abstract, so that nothing ever
counts it out. -/
theorem wait_clock (world : World ν) (milliseconds : Nat) :
    ∃ clock, world.wait milliseconds = { world with clock := clock } :=
  ⟨_, rfl⟩

def asked (surroundings : Surroundings) (world : World ν) : World ν :=
  { world with storeCalls := world.storeCalls + 1 }.wait (surroundings.store world.storeCalls).delay

theorem asked_clock (surroundings : Surroundings) (world : World ν) :
    ∃ clock, world.asked surroundings =
      { world with clock := clock, storeCalls := world.storeCalls + 1 } :=
  wait_clock _ _

@[simp] theorem asked_registry (surroundings : Surroundings) (world : World ν) :
    (world.asked surroundings).registry = world.registry := by
  obtain ⟨clock, same⟩ := world.asked_clock surroundings
  rw [same]

@[simp] theorem asked_wall (surroundings : Surroundings) (world : World ν) :
    (world.asked surroundings).wall = world.wall := by
  obtain ⟨clock, same⟩ := world.asked_clock surroundings
  rw [same]

@[simp] theorem asked_issued (surroundings : Surroundings) (world : World ν) :
    (world.asked surroundings).issued = world.issued := by
  obtain ⟨clock, same⟩ := world.asked_clock surroundings
  rw [same]

end World

theorem World.answer_store_working [Throttle.Arithmetic ν] (surroundings : Surroundings)
    (limit : Nat) (request : StoreCall α) (world : World ν)
    (inTime : (surroundings.store world.storeCalls).delay ≤ limit)
    (works : (surroundings.store world.storeCalls).failing = none) :
    world.answer surroundings (.store limit request) =
      (.answered (World.storeWork surroundings request (world.asked surroundings)).1,
        (World.storeWork surroundings request (world.asked surroundings)).2) := by
  rw [World.answer, World.under, if_neg (by simpa using inTime)]
  simp only [works]
  rfl

theorem World.answer_store [Throttle.Arithmetic ν] (surroundings : Surroundings) (limit : Nat)
    (prompt : surroundings.Prompt limit) (request : StoreCall α) (world : World ν) :
    world.answer surroundings (.store limit request) =
      (.answered (World.storeWork surroundings request (world.asked surroundings)).1,
        (World.storeWork surroundings request (world.asked surroundings)).2) := by
  obtain ⟨inTime, works⟩ := prompt world.storeCalls
  exact world.answer_store_working surroundings limit request inTime works

theorem Flow.run_askStore [Throttle.Arithmetic ν] (surroundings : Surroundings) (limit : Nat)
    (prompt : surroundings.Prompt limit) (request : StoreCall α) (world : World ν) :
    (Flow.askStore limit request).run surroundings world =
      (Outcome.ofExcept (World.storeWork surroundings request (world.asked surroundings)).1,
        (World.storeWork surroundings request (world.asked surroundings)).2) := by
  rw [Flow.askStore, Flow.run_ask, world.answer_store surroundings limit prompt]
  rfl

/-! ## A healthy cache -/

theorem World.answer_cache [Throttle.Arithmetic ν] (surroundings : Surroundings)
    (healthy : surroundings.cache = .healthy) (limit : Nat) (request : CacheCall α)
    (world : World ν) :
    world.answer surroundings (.cache limit request) =
      (.answered (cacheWork surroundings.cacheHealth request
          { world with cacheCalls := world.cacheCalls + 1 }).1,
        (cacheWork surroundings.cacheHealth request
          { world with cacheCalls := world.cacheCalls + 1 }).2) := by
  rw [answer, healthy, under]
  simp [Condition.healthy, Condition.steady, wait]

/-! ## Flows that add no user -/

/-- Nobody has joined or left since, no identifier has been handed out, and it is the same instant. -/
structure World.Still (before after : World ν) : Prop where
  registry : after.registry = before.registry
  issued : after.issued = before.issued
  wall : after.wall = before.wall

theorem World.Still.trans (first second third : World ν) (early : first.Still second)
    (late : second.Still third) : first.Still third :=
  ⟨late.registry.trans early.registry, late.issued.trans early.issued, late.wall.trans early.wall⟩

theorem World.still_asked (surroundings : Surroundings) (world : World ν) :
    world.Still (world.asked surroundings) :=
  ⟨world.asked_registry surroundings, world.asked_issued surroundings,
    world.asked_wall surroundings⟩

/-- The call adds no user and hands out no identifier. -/
def Call.quiet : {β : Type} → Call β → Bool
  | _, .store _ (.create _) => false
  | _, .freshId => false
  | _, _ => true

/-- Whatever the replies, the flow makes quiet calls only. -/
def Flow.Quiet : Flow α → Prop
  | .done _ => True
  | .ask call next => call.quiet = true ∧ ∀ reply, (next reply).Quiet

theorem Flow.Quiet.bind (flow : Flow α) (next : α → Flow β) (first : flow.Quiet)
    (second : ∀ value, (next value).Quiet) : (flow.bind next).Quiet := by
  induction flow with
  | done value => exact second value
  | ask call rest ih => exact ⟨first.1, fun reply => ih reply (first.2 reply)⟩

theorem Flow.Quiet.andThen (flow : Flow (Outcome α)) (next : α → Flow (Outcome β))
    (first : flow.Quiet) (second : ∀ value, (next value).Quiet) : (flow.andThen next).Quiet := by
  refine Quiet.bind flow _ first fun outcome => ?_
  cases outcome with
  | ok value => exact second value
  | error fault => exact trivial

theorem Flow.quiet_askStore (limit : Nat) (request : StoreCall α)
    (quiet : (Call.store limit request).quiet = true) : (Flow.askStore limit request).Quiet := by
  refine ⟨quiet, fun reply => ?_⟩
  cases reply with
  | answered result => exact trivial
  | late => exact trivial

/-! ## What a call leaves alone -/

namespace World

theorem see_under {κ : Type} (see : World ν → κ)
    (timeless : ∀ (world : World ν) clock, see { world with clock := clock } = see world)
    (turn : Turn) (limit : Nat) (work : World ν → Except Failure α × World ν)
    (worked : ∀ world, see (work world).2 = see world) (world : World ν) :
    see (world.under turn limit work).2 = see world := by
  have waited : ∀ milliseconds, see (world.wait milliseconds) = see world := by
    intro milliseconds
    obtain ⟨clock, same⟩ := world.wait_clock milliseconds
    rw [same]
    exact timeless world clock
  rw [under]
  split
  · exact waited limit
  · cases turn.failing with
    | some failure => exact waited turn.delay
    | none => exact (worked _).trans (waited turn.delay)

/-- What hashing and remembering the stand-in leave alone, asking for it leaves alone. -/
theorem see_standIn {κ : Type} [Throttle.Arithmetic ν] (surroundings : Surroundings)
    (see : World ν → κ)
    (hashed : ∀ world : World ν, see (world.hash surroundings standInPassword).2 = see world)
    (stood : ∀ (world : World ν) known, see { world with standIn := some known } = see world)
    (world : World ν) : see (world.answer surroundings .standIn).2 = see world := by
  rw [answer]
  cases world.standIn with
  | some known => rfl
  | none =>
      have same := hashed world
      rcases ran : world.hash surroundings standInPassword with ⟨result, later⟩
      rw [ran] at same
      cases result with
      | error failure => exact same
      | ok known => exact (stood later known).trans same

theorem still_wait (world : World ν) (milliseconds : Nat) :
    world.Still (world.wait milliseconds) := by
  obtain ⟨clock, same⟩ := world.wait_clock milliseconds
  rw [same]
  exact ⟨rfl, rfl, rfl⟩

theorem still_under (turn : Turn) (limit : Nat) (world : World ν)
    (work : World ν → Except Failure α × World ν)
    (still : ∀ other : World ν, other.Still (work other).2) :
    world.Still (world.under turn limit work).2 := by
  have waited := world.still_wait turn.delay
  rw [under]
  split
  · exact world.still_wait limit
  · split
    · exact waited
    · exact waited.trans _ _ _ (still (world.wait turn.delay))

/-- A call that may be slow or failing does its work after a while, or gets no good answer and leaves
everything as it was. -/
theorem under_cases (turn : Turn) (limit : Nat) (world : World ν)
    (work : World ν → Except Failure α × World ν) :
    world.under turn limit work =
        (.answered (work (world.wait turn.delay)).1, (work (world.wait turn.delay)).2) ∨
      world.Still (world.under turn limit work).2 ∧
        ∀ value, (world.under turn limit work).1 ≠ .answered (.ok value) := by
  rw [under]
  split
  · exact Or.inr ⟨world.still_wait limit, by simp⟩
  · split
    · exact Or.inr ⟨world.still_wait turn.delay, by simp⟩
    · exact Or.inl rfl

variable [Throttle.Arithmetic ν]

theorem still_answer (surroundings : Surroundings) (call : Call β) (quiet : call.quiet = true)
    (world : World ν) : world.Still (world.answer surroundings call).2 := by
  cases call with
  | store limit request =>
      have still := still_under (surroundings.store world.storeCalls) limit
        { world with storeCalls := world.storeCalls + 1 } (storeWork surroundings request)
        fun other => by
          cases request with
          | create new => cases quiet
          | findByEmail email => exact ⟨rfl, rfl, rfl⟩
          | findById id => exact ⟨rfl, rfl, rfl⟩
      exact ⟨still.registry, still.issued, still.wall⟩
  | cache limit request =>
      have still := still_under (surroundings.cache world.cacheCalls) limit
        { world with cacheCalls := world.cacheCalls + 1 }
        (cacheWork surroundings.cacheHealth request) fun other => by
          cases request <;> exact ⟨rfl, rfl, rfl⟩
      exact ⟨still.registry, still.issued, still.wall⟩
  | hash password => exact ⟨rfl, rfl, rfl⟩
  | compare password hash => exact ⟨rfl, rfl, rfl⟩
  | standIn =>
      have same := world.see_standIn surroundings
        (fun other => (other.registry, other.issued, other.wall)) (fun _ => rfl) fun _ _ => rfl
      obtain ⟨registry, rest⟩ := Prod.mk.inj same
      obtain ⟨issued, wall⟩ := Prod.mk.inj rest
      exact ⟨registry, issued, wall⟩
  | now => exact ⟨rfl, rfl, rfl⟩
  | draw draw => exact ⟨rfl, rfl, rfl⟩
  | freshId => cases quiet
  | spend identity => exact ⟨rfl, rfl, rfl⟩

@[simp] theorem wall_answer (surroundings : Surroundings) (call : Call β) (world : World ν) :
    (world.answer surroundings call).2.wall = world.wall := by
  cases quiet : call.quiet with
  | true => exact (world.still_answer surroundings call quiet).wall
  | false =>
      cases call with
      | freshId => rfl
      | store limit request =>
          cases request with
          | findByEmail email => cases quiet
          | findById id => cases quiet
          | create new =>
              rw [answer]
              rcases under_cases (surroundings.store world.storeCalls) limit
                { world with storeCalls := world.storeCalls + 1 }
                (storeWork surroundings (.create new)) with works | ⟨still, -⟩
              · obtain ⟨clock, waited⟩ := wait_clock { world with
                  storeCalls := world.storeCalls + 1 } (surroundings.store world.storeCalls).delay
                rw [works, waited]
                rfl
              · exact still.wall
      | _ => cases quiet

end World

theorem Flow.still_run [Throttle.Arithmetic ν] (surroundings : Surroundings) (flow : Flow α)
    (quiet : flow.Quiet) (world : World ν) : world.Still (flow.run surroundings world).2 := by
  induction flow generalizing world with
  | done value => exact ⟨rfl, rfl, rfl⟩
  | ask call next ih =>
      have first := world.still_answer surroundings call quiet.1
      have rest := ih (world.answer surroundings call).1 (quiet.2 _)
        (world.answer surroundings call).2
      exact first.trans _ _ _ rest

end Gatehouse.Service

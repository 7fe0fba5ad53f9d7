import Gatehouse.Proofs.Service.Paths
import Gatehouse.Proofs.Service.Runs

/-!
# Calls and who answers them

A host answers the calls of a flow out of a state of its own; a world is one host
among others.  Which calls a flow makes at a host is its log.  A flow that can
make none but some calls, whatever it is told, makes no other at any host, and
leaves alone whatever part of the state those calls leave alone.
-/

set_option autoImplicit false

namespace Gatehouse.Service

variable {α β : Type} {σ κ : Type}

/-- Neither the user store nor the hasher has to do with the call. -/
def Call.plain {β : Type} (call : Call β) : Bool :=
  !call.credential

/-- Whoever answers calls, out of a state. -/
structure Host (σ : Type) where
  answer : {β : Type} → Call β → σ → β × σ

/-- The world as a host of flows. -/
def World.host {ν : Type} [Throttle.Arithmetic ν] (surroundings : Surroundings) :
    Host (World ν) :=
  ⟨fun call world => world.answer surroundings call⟩

namespace Flow

def runWith (host : Host σ) : Flow α → σ → α × σ
  | .done value, state => (value, state)
  | .ask call next, state =>
    (next (host.answer call state).1).runWith host (host.answer call state).2

/-- The calls that a flow makes at a host, in their order. -/
def calls (host : Host σ) : Flow α → σ → List ((β : Type) × Call β)
  | .done _, _ => []
  | .ask call next, state =>
    ⟨_, call⟩ :: (next (host.answer call state).1).calls host (host.answer call state).2

theorem runWith_host {ν : Type} [Throttle.Arithmetic ν] (surroundings : Surroundings)
    (flow : Flow α) (world : World ν) :
    flow.runWith (World.host surroundings) world = flow.run surroundings world := by
  induction flow generalizing world with
  | done value => rfl
  | ask call next ih => exact ih _ _

theorem runWith_bind (host : Host σ) (flow : Flow α) (next : α → Flow β) (state : σ) :
    (flow.bind next).runWith host state =
      (next (flow.runWith host state).1).runWith host (flow.runWith host state).2 := by
  induction flow generalizing state with
  | done value => rfl
  | ask call rest ih => exact ih _ _

theorem calls_bind (host : Host σ) (flow : Flow α) (next : α → Flow β) (state : σ) :
    (flow.bind next).calls host state =
      flow.calls host state ++
        (next (flow.runWith host state).1).calls host (flow.runWith host state).2 := by
  induction flow generalizing state with
  | done value => rfl
  | ask call rest ih => exact congrArg (_ :: ·) (ih _ _)

section

variable (host : Host σ) (flow : Flow (Outcome α)) (next : α → Flow (Outcome β)) (state : σ)

theorem runWith_andThen_error (fault : Fault)
    (failed : (flow.runWith host state).1 = .error fault) :
    (flow.andThen next).runWith host state = (.error fault, (flow.runWith host state).2) := by
  rw [andThen, runWith_bind, failed]
  rfl

theorem calls_andThen_ok (value : α) (passed : (flow.runWith host state).1 = .ok value) :
    (flow.andThen next).calls host state =
      flow.calls host state ++ (next value).calls host (flow.runWith host state).2 := by
  rw [andThen, calls_bind, passed]

theorem calls_andThen_error (fault : Fault)
    (failed : (flow.runWith host state).1 = .error fault) :
    (flow.andThen next).calls host state = flow.calls host state := by
  rw [andThen, calls_bind, failed]
  exact List.append_nil _

end

/-! ## Flows that keep to some calls -/

/-- Whatever the replies, every call of the flow is an allowed one. -/
def Makes (allowed : {β : Type} → Call β → Bool) : Flow α → Prop
  | .done _ => True
  | .ask call next => allowed call = true ∧ ∀ reply, (next reply).Makes allowed

variable (allowed : {β : Type} → Call β → Bool)

theorem Makes.mono (more : {β : Type} → Call β → Bool)
    (implies : ∀ {β : Type} (call : Call β), allowed call = true → more call = true)
    (flow : Flow α) (makes : flow.Makes allowed) : flow.Makes more := by
  induction flow with
  | done value => exact trivial
  | ask call next ih => exact ⟨implies call makes.1, fun reply => ih reply (makes.2 reply)⟩

theorem Makes.bind (flow : Flow α) (next : α → Flow β) (first : flow.Makes allowed)
    (second : ∀ value, (next value).Makes allowed) : (flow.bind next).Makes allowed := by
  induction flow with
  | done value => exact second value
  | ask call rest ih => exact ⟨first.1, fun reply => ih reply (first.2 reply)⟩

theorem Makes.andThen (flow : Flow (Outcome α)) (next : α → Flow (Outcome β))
    (first : flow.Makes allowed) (second : ∀ value, (next value).Makes allowed) :
    (flow.andThen next).Makes allowed := by
  refine Makes.bind allowed flow _ first fun outcome => ?_
  cases outcome with
  | ok value => exact second value
  | error fault => exact trivial

theorem makes_askStore (limit : Nat) (request : StoreCall α)
    (fine : allowed (Call.store limit request) = true) :
    (askStore limit request).Makes allowed := by
  refine ⟨fine, fun reply => ?_⟩
  cases reply <;> exact trivial

theorem calls_askStore (host : Host σ) (limit : Nat) (request : StoreCall α) (state : σ) :
    (askStore limit request).calls host state = [⟨_, .store limit request⟩] := by
  rw [askStore, calls]
  cases (host.answer (.store limit request) state).1 <;> rfl

theorem Makes.calls (flow : Flow α) (makes : flow.Makes allowed) (host : Host σ) (state : σ) :
    ∀ made ∈ flow.calls host state, allowed made.2 = true := by
  induction flow generalizing state with
  | done value => exact fun made none => absurd none List.not_mem_nil
  | ask call next ih =>
      rw [Flow.calls, List.forall_mem_cons]
      exact ⟨makes.1, ih _ (makes.2 _) _⟩

theorem Makes.leads (relation : σ → σ → Prop) (refl : ∀ state, relation state state)
    (trans : ∀ first second third, relation first second → relation second third →
      relation first third)
    (host : Host σ)
    (led : ∀ {β : Type} (call : Call β) (state : σ), allowed call = true →
      relation state (host.answer call state).2)
    (flow : Flow α) (makes : flow.Makes allowed) (state : σ) :
    relation state (flow.runWith host state).2 := by
  induction flow generalizing state with
  | done value => exact refl state
  | ask call next ih =>
      have first := led call state makes.1
      have rest := ih (host.answer call state).1 (makes.2 _) (host.answer call state).2
      exact trans _ _ _ first rest

/-- What every allowed call leaves alone, the whole flow leaves alone. -/
theorem Makes.keeps (see : σ → κ) (host : Host σ)
    (kept : ∀ {β : Type} (call : Call β) (state : σ), allowed call = true →
      see (host.answer call state).2 = see state)
    (flow : Flow α) (makes : flow.Makes allowed) (state : σ) :
    see (flow.runWith host state).2 = see state :=
  makes.leads allowed (fun before after => see after = see before) (fun _ => rfl)
    (fun _ _ _ early late => late.trans early) host kept flow state

end Flow

end Gatehouse.Service

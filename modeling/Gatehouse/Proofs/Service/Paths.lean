import Gatehouse.Service.Flow

/-!
# Paths through flows

What a flow has done after some of its calls were answered, whoever answered
them.  An answered call is kept as its `Deed`: what it stored or took, the
identifier or the instant it gave, or that it looked at credentials.
`Flow.Path` leads from a flow to what is left of it, deed by deed.
-/

set_option autoImplicit false

namespace Gatehouse.Service

/-- What an answered call did. -/
inductive Deed
  | stored (key value : String)
  /-- A value was sent to a key, and no answer says that it is there. -/
  | sent (key value : String)
  | took (key : String) (found : Option String)
  /-- A key was to be read and removed, and no answer says what was there. -/
  | missed (key : String)
  | deleted (key : String)
  | named (id : Uuid)
  | dated (now : Instant)
  | credential
  | other
  deriving DecidableEq, Repr

def Call.credential : {β : Type} → Call β → Bool
  | _, .store _ _ => true
  | _, .hash _ => true
  | _, .compare _ _ => true
  | _, .standIn => true
  | _, _ => false

def CacheCall.deed : {α : Type} → CacheCall α → Reply α → Deed
  | _, .set key value _, .answered (.ok _) => .stored key value
  | _, .set key value _, _ => .sent key value
  | _, .take key, .answered (.ok found) => .took key found
  | _, .take key, _ => .missed key
  | _, .delete key, .answered (.ok _) => .deleted key
  | _, _, _ => .other

def Call.deed : {β : Type} → Call β → β → Deed
  | _, .cache _ request, reply => request.deed reply
  | _, .freshId, id => .named id
  | _, .now, instant => .dated instant
  | _, .store _ _, _ => .credential
  | _, .hash _, _ => .credential
  | _, .compare _ _, _ => .credential
  | _, .standIn, _ => .credential
  | _, _, _ => .other

namespace Flow

variable {α β : Type}

/-- The flow is about to ask the user store or the hasher. -/
def asksCredential : Flow α → Bool
  | .done _ => false
  | .ask call _ => call.credential

/-- After these deeds, this is left of a flow. -/
def Path : Flow α → List Deed → Flow α → Prop
  | flow, [], rest => rest = flow
  | .done _, _ :: _, _ => False
  | .ask call next, deed :: deeds, rest =>
    ∃ reply, call.deed reply = deed ∧ Path (next reply) deeds rest

@[simp] theorem path_nil (flow rest : Flow α) : Path flow [] rest ↔ rest = flow := by
  rw [Path]

@[simp] theorem path_done_cons (value : α) (deed : Deed) (deeds : List Deed) (rest : Flow α) :
    ¬ Path (.done value) (deed :: deeds) rest := by
  rw [Path]
  exact not_false

theorem path_done_iff (value : α) (deeds : List Deed) (rest : Flow α) :
    Path (.done value) deeds rest ↔ deeds = [] ∧ rest = .done value := by
  cases deeds <;> simp

theorem Path.snoc (flow : Flow α) (deeds : List Deed) (call : Call β) (next : β → Flow α)
    (path : Path flow deeds (.ask call next)) (reply : β) :
    Path flow (deeds ++ [call.deed reply]) (next reply) := by
  induction deeds generalizing flow with
  | nil =>
      rw [path_nil] at path
      subst path
      exact ⟨reply, rfl, (path_nil _ _).mpr rfl⟩
  | cons deed deeds ih =>
      cases flow with
      | done value => exact absurd path (path_done_cons _ _ _ _)
      | ask call next =>
          obtain ⟨answered, did, path⟩ := path
          exact ⟨answered, did, ih _ path⟩

/-! ## Flows that keep to some deeds -/

/-- Whatever the replies, every deed of the flow is an allowed one. -/
def Only (allowed : Deed → Prop) : Flow α → Prop
  | .done _ => True
  | .ask call next => (∀ reply, allowed (call.deed reply)) ∧ ∀ reply, (next reply).Only allowed

theorem Only.of_path (allowed : Deed → Prop) (flow : Flow α) (only : flow.Only allowed)
    (deeds : List Deed) (rest : Flow α) (path : Path flow deeds rest) :
    ∀ deed ∈ deeds, allowed deed := by
  induction deeds generalizing flow with
  | nil => simp
  | cons first deeds ih =>
      cases flow with
      | done value => exact absurd path (path_done_cons _ _ _ _)
      | ask call next =>
          obtain ⟨reply, did, path⟩ := path
          rw [List.forall_mem_cons]
          exact ⟨did ▸ only.1 reply, ih _ (only.2 reply) path⟩

theorem Only.bind (allowed : Deed → Prop) (flow : Flow α) (next : α → Flow β)
    (first : flow.Only allowed) (second : ∀ value, (next value).Only allowed) :
    (flow.bind next).Only allowed := by
  induction flow with
  | done value => exact second value
  | ask call rest ih => exact ⟨first.1, fun reply => ih reply (first.2 reply)⟩

theorem Only.andThen (allowed : Deed → Prop) (flow : Flow (Outcome α))
    (next : α → Flow (Outcome β)) (first : flow.Only allowed)
    (second : ∀ value, (next value).Only allowed) :
    (flow.andThen next).Only allowed := by
  refine Only.bind allowed flow _ first ?_
  intro outcome
  cases outcome with
  | ok value => exact second value
  | error fault => exact trivial

end Flow

end Gatehouse.Service

import Gatehouse.Account.User
import Gatehouse.Random

/-!
# Flows

What the services do, as data.  A flow is a value or a call with what follows on
every reply.  Calls are the only way to reach anything outside the flow, and the
only places where flows running side by side can change turns; who answers the
calls, and how, is not part of the flow.
-/

set_option autoImplicit false

namespace Gatehouse.Service

/-- What a user store is asked, by the type of its reply. -/
inductive StoreCall : Type → Type
  | create (new : NewUser) : StoreCall User
  | findByEmail (email : String) : StoreCall (Option User)
  | findById (id : Uuid) : StoreCall (Option User)

/-- What a cache is asked, by the type of its reply.  Times are nanoseconds. -/
inductive CacheCall : Type → Type
  | get (key : String) : CacheCall (Option String)
  | set (key value : String) (lifetime : Nat) : CacheCall Unit
  | delete (key : String) : CacheCall Unit
  | take (key : String) : CacheCall (Option String)
  | exists (key : String) : CacheCall Bool
  | increment (key : String) (cap length : Nat) : CacheCall Nat
  | health : CacheCall Bool

inductive Reply (α : Type)
  | answered (result : Except Failure α)
  | late

/-- A call of a service, by the type of its reply.  Limits are milliseconds. -/
inductive Call : Type → Type 1
  | store {α : Type} (limit : Nat) (call : StoreCall α) : Call (Reply α)
  | cache {α : Type} (limit : Nat) (call : CacheCall α) : Call (Reply α)
  | hash (password : String) : Call (Except Failure String)
  | compare (password hash : String) : Call (Except Failure Bool)
  /-- The hash that stands in for the one of an unknown user; made once, when first needed. -/
  | standIn : Call (Except Failure String)
  | now : Call Instant
  | draw {α : Type} (draw : Draw α) : Call α
  | freshId : Call Uuid
  | spend (identity : String) : Call Bool

inductive Flow (α : Type) : Type 1
  | done (value : α)
  | ask {β : Type} (call : Call β) (next : β → Flow α)

namespace Flow

def call {β : Type} (call : Call β) : Flow β :=
  ask call done

def bind {α β : Type} : Flow α → (α → Flow β) → Flow β
  | done value, next => next value
  | ask call rest, next => ask call fun reply => bind (rest reply) next

instance : Monad Flow where
  pure := done
  bind := bind

/-- Goes on with a result, or ends with what went wrong. -/
def andThen {α β : Type} (flow : Flow (Outcome α)) (next : α → Flow (Outcome β)) :
    Flow (Outcome β) :=
  flow.bind fun
    | .ok value => next value
    | .error fault => done (.error fault)

def stop {α : Type} (failure : Failure) : Flow (Outcome α) :=
  done (.error (.failure failure))

/-- Asks a store within a limit; no answer in time is a failure. -/
def askStore {α : Type} (limit : Nat) (request : StoreCall α) : Flow (Outcome α) :=
  ask (.store limit request) fun
    | .answered result => done (Outcome.ofExcept result)
    | .late => stop .userStoreLate

end Flow

end Gatehouse.Service

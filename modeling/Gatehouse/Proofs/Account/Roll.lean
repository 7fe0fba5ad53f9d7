import Gatehouse.Account.Access
import Gatehouse.Proofs.Token.Issuing
import Gatehouse.Service.World

/-!
# The plain registry

What signing up, logging in and removing users mean, without tables, hashes or
flows: a roll says who has an address, by its lower-case form, under which
identifier and name and with which password.  `Roll.Explains` is what a visit may
be answered with, and `Roll.after` what the roll is afterwards.
-/

set_option autoImplicit false

namespace Gatehouse.Account

open Service

/-! ## Visits -/

inductive Request
  | signup (input : Signup)
  | login (input : Login)
  | remove (id : Uuid)
  deriving DecidableEq, Repr

structure Visit where
  request : Request
  now : Instant
  deriving DecidableEq, Repr

inductive Response
  | admission (result : Outcome Admission)
  | removal (found : Option User)

/-- Answers a visit: the flow of the request is run in the world at its instant. -/
def respond {ν : Type} [Throttle.Arithmetic ν] (surroundings : Surroundings) (settings : Settings)
    (world : World ν) (visit : Visit) : Response × World ν :=
  match visit.request with
  | .signup input =>
    let (result, world) := (signup settings input).run surroundings { world with wall := visit.now }
    (.admission result, world)
  | .login input =>
    let (result, world) := (login settings input).run surroundings { world with wall := visit.now }
    (.admission result, world)
  | .remove id =>
    let (found, registry) := world.registry.remove id
    (.removal found, { world with registry := registry, wall := visit.now })

def worldAfter {ν : Type} [Throttle.Arithmetic ν] (surroundings : Surroundings)
    (settings : Settings) (world : World ν) (visits : List Visit) : World ν :=
  visits.foldl (fun world visit => (respond surroundings settings world visit).2) world

/-! ## The roll -/

structure Member where
  id : Uuid
  name : String
  password : String
  deriving DecidableEq, Repr

structure Roll where
  members : String → Option Member
  /-- How many identifiers are gone. -/
  joined : Nat

namespace Roll

def empty (joined : Nat) : Roll :=
  ⟨fun _ => none, joined⟩

/-- The roll after a request, when new members get these identifiers in order. -/
def after (ids : Nat → Uuid) (roll : Roll) : Request → Roll
  | .signup input =>
    match roll.members (Registry.emailKey input.email) with
    | some _ => roll
    | none =>
      ⟨fun key =>
          if key = Registry.emailKey input.email then
            some ⟨ids roll.joined, input.name, input.password⟩
          else roll.members key,
        roll.joined + 1⟩
  | .login _ => roll
  | .remove id =>
    { roll with members := fun key => (roll.members key).filter fun member => member.id != id }

theorem joined_after_le (ids : Nat → Uuid) (roll : Roll) (request : Request) :
    (roll.after ids request).joined ≤ roll.joined + 1 := by
  cases request with
  | signup input =>
      simp only [after]
      split
      · exact Nat.le_succ _
      · exact Nat.le_refl _
  | login input => exact Nat.le_succ _
  | remove id => exact Nat.le_succ _

def afterAll (ids : Nat → Uuid) (roll : Roll) (visits : List Visit) : Roll :=
  visits.foldl (fun roll visit => roll.after ids visit.request) roll

end Roll

/-- The result is an admission of the member, with a pair that identifies it at this instant. -/
def Admits (settings : Settings) (now : Instant) (key : String) (member : Member)
    (result : Outcome Admission) : Prop :=
  ∃ admission, result = .ok admission ∧ admission.user.id = member.id ∧
    admission.user.name = member.name ∧ Registry.emailKey admission.user.email = key ∧
    Token.Identifies settings.label settings.tokens now member.id admission.tokens

def Refuses (kind : Kind) (result : Outcome Admission) : Prop :=
  ∃ failure, result = .error (.failure failure) ∧ failure.kind = kind

def Roll.Explains (settings : Settings) (ids : Nat → Uuid) (roll : Roll) (now : Instant) :
    Request → Response → Prop
  | .signup input, .admission result =>
    match roll.members (Registry.emailKey input.email) with
    | some _ => Refuses .conflict result
    | none =>
      Admits settings now (Registry.emailKey input.email)
        ⟨ids roll.joined, input.name, input.password⟩ result
  | .login input, .admission result =>
    match roll.members (Registry.emailKey input.email) with
    | some member =>
      if input.password = member.password then
        Admits settings now (Registry.emailKey input.email) member result
      else Refuses .authentication result
    | none => Refuses .authentication result
  | .remove id, .removal (some user) =>
    ∃ member, roll.members (Registry.emailKey user.email) = some member ∧ member.id = id ∧
      user.id = id ∧ user.name = member.name
  | .remove id, .removal none => ∀ key member, roll.members key = some member → member.id ≠ id
  | _, _ => False

end Gatehouse.Account

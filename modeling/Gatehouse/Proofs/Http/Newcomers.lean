import Gatehouse.Proofs.Http.Effects
import Gatehouse.Proofs.Http.Secrecy

/-!
# Whom requests bring in

Only a signup asks for a user to be stored.  It asks for one who has the name and
the address of its form and a hash that stands for its password, and it is
answered with 201 only if that user has been stored for it.  All of this can be
seen from the flow of the request (`recruits_respond`), whoever answers its
calls, as long as the hasher is honest.
-/

set_option autoImplicit false

namespace Gatehouse

namespace Service

variable {ν α β : Type}

/-- A hash that is made stands for the password that it was made of. -/
def Hasher.Honest (hasher : Hasher) : Prop :=
  ∀ count password words position hash,
    ((hasher.hash count password).run words position).1 = .ok hash →
      hasher.StandsFor hash password

theorem Hasher.Faithful.honest (hasher : Hasher) (faithful : hasher.Faithful) : hasher.Honest := by
  intro count password words position hash made
  obtain ⟨other, hashed, stands⟩ := faithful count password words position
  cases hashed.symm.trans made
  exact stands

/-- If the reply to a call is a hash, it stands for the password that was to be hashed. -/
def Call.Truthful (hasher : Hasher) : {β : Type} → Call β → β → Prop
  | _, .hash password, reply => ∀ hash, reply = .ok hash → hasher.StandsFor hash password
  | _, _, _ => True

theorem World.truthful_answer [Throttle.Arithmetic ν] (surroundings : Surroundings)
    (honest : surroundings.hasher.Honest) (world : World ν) (call : Call β) :
    call.Truthful surroundings.hasher (world.answer surroundings call).1 := by
  cases call with
  | hash password => exact fun hash made => honest _ _ _ _ hash made
  | _ => exact trivial

/-- Whatever truthful replies it gets, the flow asks for fine users only, and ends well for the last
one that has been stored for it. -/
def Flow.Recruits (hasher : Hasher) (fine : NewUser → Prop) (ends : Option User → α → Prop) :
    Flow α → Option User → Prop
  | .done value, joined => ends joined value
  | .ask call next, joined => (∀ new, call.newcomer = some new → fine new) ∧
    ∀ reply, call.Truthful hasher reply →
      (next reply).Recruits hasher fine ends ((call.joiner reply).or joined)

/-- The call does not ask for a user to be stored. -/
def Call.closed : {β : Type} → Call β → Bool
  | _, .store _ (.create _) => false
  | _, _ => true

theorem Call.newcomer_of_closed (call : Call β) (closed : call.closed = true) :
    call.newcomer = none ∧ ∀ reply, call.joiner reply = none := by
  cases call with
  | store limit request =>
      cases request with
      | create new => cases closed
      | findByEmail email => exact ⟨rfl, fun _ => rfl⟩
      | findById id => exact ⟨rfl, fun _ => rfl⟩
  | _ => exact ⟨rfl, fun _ => rfl⟩

theorem Call.closed_of_quiet (call : Call β) (quiet : call.quiet = true) :
    call.closed = true := by
  cases call with
  | store limit request =>
      cases request with
      | create new => cases quiet
      | findByEmail email => rfl
      | findById id => rfl
  | _ => rfl

theorem Call.closed_of_plain (call : Call β) (plain : call.plain = true) :
    call.closed = true := by
  cases call with
  | store limit request => cases plain
  | _ => rfl

namespace Flow

theorem Quiet.closed (flow : Flow α) (quiet : flow.Quiet) : flow.Makes Call.closed := by
  induction flow with
  | done value => exact trivial
  | ask call next ih =>
      exact ⟨call.closed_of_quiet quiet.1, fun reply => ih reply (quiet.2 reply)⟩

theorem closed_of_plain (flow : Flow α) (plain : flow.Makes Call.plain) :
    flow.Makes Call.closed :=
  plain.mono _ _ Call.closed_of_plain

variable (hasher : Hasher) (fine : NewUser → Prop)

theorem Recruits.bind (ends : Option User → α → Prop) (good : Option User → β → Prop)
    (flow : Flow α) (next : α → Flow β) (joined : Option User)
    (first : flow.Recruits hasher fine ends joined)
    (second : ∀ later value, ends later value → (next value).Recruits hasher fine good later) :
    (flow.bind next).Recruits hasher fine good joined := by
  induction flow generalizing joined with
  | done value => exact second joined value first
  | ask call rest ih =>
      exact ⟨first.1, fun reply truthful => ih reply _ (first.2 reply truthful)⟩

theorem Recruits.mono (more : NewUser → Prop) (ends : Option User → α → Prop) (flow : Flow α)
    (joined : Option User) (recruits : flow.Recruits hasher fine ends joined)
    (wider : ∀ new, fine new → more new) : flow.Recruits hasher more ends joined := by
  induction flow generalizing joined with
  | done value => exact recruits
  | ask call next ih =>
      exact ⟨fun new asked => wider new (recruits.1 new asked),
        fun reply truthful => ih reply _ (recruits.2 reply truthful)⟩

theorem recruits_of_closed (ends : Option User → α → Prop) (flow : Flow α)
    (closed : flow.Makes Call.closed) (joined : Option User) (well : ∀ value, ends joined value) :
    flow.Recruits hasher fine ends joined := by
  induction flow with
  | done value => exact well value
  | ask call next ih =>
      obtain ⟨nobody, none⟩ := call.newcomer_of_closed closed.1
      refine ⟨fun new asked => ?_, fun reply _ => ?_⟩
      · cases nobody.symm.trans asked
      · rw [none reply]
        exact ih reply (closed.2 reply)

variable {hasher fine} {ends : Option User → α → Prop}

theorem Recruits.turn [Throttle.Arithmetic ν] (surroundings : Surroundings)
    (honest : surroundings.hasher.Honest) (flow : Flow α) (joined : Option User)
    (recruits : flow.Recruits surroundings.hasher fine ends joined) (world : World ν) :
    let turned := flow.turn surroundings world
    (turned.1.Recruits surroundings.hasher fine ends joined ∧
        turned.2.registry = world.registry ∧ world.issued ≤ turned.2.issued) ∨
      ∃ new user, fine new ∧ world.Joined surroundings new user turned.2 ∧
        turned.1.Recruits surroundings.hasher fine ends (some user) := by
  cases flow with
  | done value => exact Or.inl ⟨recruits, rfl, le_rfl⟩
  | ask call next =>
      have rest := recruits.2 _ (world.truthful_answer surroundings honest call)
      rcases world.joined_answer surroundings call with
        ⟨nobody, registry, issued⟩ | ⟨new, user, asked, stored, joins⟩
      · rw [nobody] at rest
        exact Or.inl ⟨rest, registry, issued⟩
      · rw [stored] at rest
        exact Or.inr ⟨new, user, recruits.1 new asked, joins, rest⟩

end Flow

end Service

open Service

namespace Account

variable (hasher : Hasher) (settings : Settings)

/-- Whom a signup is to bring in. -/
structure Signup.Suits (input : Signup) (new : NewUser) : Prop where
  name : new.name = input.name
  email : new.email = input.email
  stands : hasher.StandsFor new.passwordHash input.password

theorem recruits_signup (input : Signup) :
    (signup settings input).Recruits hasher (input.Suits hasher)
      (fun joined outcome => ∀ admission, outcome = .ok admission → joined = some admission.user)
      none := by
  refine (Flow.recruits_of_closed hasher _ (fun joined _ => joined = none) _
    (Flow.makes_askStore _ _ _ rfl) none fun _ => rfl).bind _ _ _ _ _ _ _ ?_
  rintro _ (fault | _ | user) rfl
  · rintro admission ⟨⟩
  · -- Nobody has the address yet: the password is hashed, and only then is a user asked for.
    refine ⟨by rintro new ⟨⟩, fun hashed truthful => ?_⟩
    cases hashed with
    | error failure => rintro admission ⟨⟩
    | ok hash =>
        refine ⟨?_, fun reply _ => ?_⟩
        · rintro new ⟨⟩
          exact ⟨rfl, rfl, truthful hash rfl⟩
        · rcases reply with ⟨failure | user⟩ | _
          · rintro admission ⟨⟩
          · refine ⟨by rintro new ⟨⟩, fun now _ admission admitted => ?_⟩
            obtain ⟨pair, -, made⟩ := (bind_eq_ok_iff _ _ _).mp admitted
            cases made
            rfl
          · rintro admission ⟨⟩
  · rintro admission ⟨⟩

end Account

namespace Http

/-- Whom a request may bring in: its body is the form of a signup. -/
def Request.Suits (hasher : Hasher) (request : Request) (new : NewUser) : Prop :=
  ∃ form, request.form SignupForm = .ok form ∧
    Account.Signup.Suits hasher ⟨form.name, form.email, form.password⟩ new

/-- The answer tells of the user that has been stored. -/
def Response.Welcomes (response : Response) (joined : Option User) : Prop :=
  ∃ admission : Account.Admission, joined = some admission.user ∧
    response.body = (Response.success 201 admission.write).body

/-- If the request is a signup that is answered with 201, the answer tells of the user. -/
def Request.Answered (request : Request) (joined : Option User) (response : Response) : Prop :=
  request.path = Endpoint.signup.path → response.status = 201 →
    request.method = .post ∧ response.Welcomes joined

section

variable (hasher : Hasher) (settings : Config.Settings) (request : Request)

theorem closed_serve (endpoint : Endpoint) (other : endpoint ≠ .signup) :
    (serve settings request endpoint).Makes Call.closed := by
  cases looks : endpoint.looks with
  | true => exact (calm_serve settings request endpoint looks).quiet.closed
  | false =>
      cases endpoint with
      | signup => exact absurd rfl other
      | login =>
          rw [serve, login]
          split
          · exact trivial
          · exact ⟨rfl, fun now => (Account.quiet_login _ _).closed.bind _ _ _ fun _ => trivial⟩
      | captcha =>
          exact Flow.closed_of_plain _ ((Captcha.makes_generate _).bind _ _ _ fun _ => trivial)
      | _ => cases looks

theorem closed_respond (other : request.path ≠ Endpoint.signup.path) :
    (respond settings request).Makes Call.closed := by
  refine (Flow.closed_of_plain _ (makes_traceOf request)).bind _ _ _ fun trace => ?_
  refine Flow.Makes.bind _ _ _ ?_ fun response => trivial
  rw [atPath]
  split
  · exact trivial
  · refine Flow.Makes.bind _ _ _ ?_ fun response => trivial
    cases found : Endpoint.ofPath? request.path with
    | none => exact trivial
    | some endpoint =>
        have here := Endpoint.ofPath?_eq_some request.path endpoint found
        refine (Flow.closed_of_plain _ (makes_passes settings request endpoint)).bind _ _ _
          fun passed => Flow.Makes.bind _ _ _ ?_ fun response => trivial
        split
        · split
          · exact closed_serve settings request endpoint fun same => other (same ▸ here)
          · exact trivial
        · exact trivial

theorem recruits_behindGate (passed : Bool) :
    (behindGate settings request .signup passed).Recruits hasher (request.Suits hasher)
      (fun joined response => response.status = 201 →
        request.method = .post ∧ response.Welcomes joined) none := by
  rw [behindGate]
  split
  · split
    · rename_i serves
      have post : request.method = .post := by simpa [Endpoint.serves, Endpoint.method] using serves
      rw [serve, signup]
      split
      · rename_i failure _
        exact fun created => absurd created (status_failed failure).2
      · rename_i form body
        have enters := (Account.recruits_signup hasher (accountSettings settings)
          ⟨form.name, form.email, form.password⟩).mono hasher _ (request.Suits hasher) _ _ _
          fun new suits => ⟨form, body, suits⟩
        refine enters.bind _ _ _ _ _ _ _ fun joined outcome well => ?_
        cases outcome with
        | error fault => exact fun created => absurd created (status_failed _).2
        | ok admission => exact fun _ => ⟨post, admission, well admission rfl, rfl⟩
    · rintro ⟨⟩
  · rintro ⟨⟩

/-- The flow of a request brings in nobody whom the request does not suit, and if it is the flow of a
signup that ends with 201, the user whom the answer tells of. -/
theorem recruits_respond :
    (respond settings request).Recruits hasher (request.Suits hasher) request.Answered none := by
  by_cases here : request.path = Endpoint.signup.path
  · have alone : ∀ (α : Type) (flow : Flow α), flow.Makes Call.plain →
        flow.Recruits hasher (request.Suits hasher) (fun joined _ => joined = none) none :=
      fun α flow plain => Flow.recruits_of_closed hasher _ _ flow (Flow.closed_of_plain _ plain)
        none fun _ => rfl
    refine (alone _ _ (makes_traceOf request)).bind _ _ _ _ _ _ _ ?_
    rintro _ trace rfl
    rw [atPath]
    refine Flow.Recruits.bind _ _ (fun joined response => response.status = 201 →
      request.method = .post ∧ response.Welcomes joined) _ _ _ none ?_ fun _ _ well _ => well
    split
    · rintro ⟨⟩
    · refine Flow.Recruits.bind _ _ _ _ _ _ none ?_ fun _ _ well => well
      rw [here, Endpoint.ofPath?_path]
      refine (alone _ _ (makes_passes settings request .signup)).bind _ _ _ _ _ _ _ ?_
      rintro _ passed rfl
      refine (recruits_behindGate hasher settings request passed).bind _ _ _ _ _ _ _ ?_
      intro joined response well created
      -- The methods that are served and the body that HEAD goes without leave the status alone.
      have status : response.status = 201 := by
        split at created <;> split at created <;> exact created
      obtain ⟨post, welcomes⟩ := well status
      refine ⟨post, ?_⟩
      rw [post, if_neg (by rintro ⟨⟩)]
      exact welcomes
  · exact Flow.recruits_of_closed hasher _ _ _ (closed_respond settings request here) none
      fun response there => absurd there here

end

end Http

end Gatehouse

import Gatehouse.Proofs.Captcha.Accounting
import Gatehouse.Proofs.Http.Stored
import Gatehouse.Proofs.Service.Turns

/-!
# Where identifiers come from

In every state that requests can bring about, with any number of them underway,
users and sessions are stored under identifiers that have been handed out
(`Reached.sourced`).  So who gets the next one finds nothing stored under it.  A
request that is underway may still store a session, but only under an identifier
that it has got itself (`Flow.Sourced`).
-/

set_option autoImplicit false

namespace Gatehouse

namespace Service

variable {ν α β : Type} (surroundings : Surroundings)

/-- The identifier has been handed out. -/
def World.HandedOut (world : World ν) (id : Uuid) : Prop :=
  ∃ position, position < world.issued ∧ surroundings.ids position = id

/-- Everything is stored under identifiers that have been handed out. -/
structure World.Sourced (world : World ν) : Prop where
  users : ∀ id user, world.registry.users.get? id = some user → world.HandedOut surroundings id
  sessions : ∀ id, world.stored.sessions id ≠ none → world.HandedOut surroundings id

/-- Whatever the replies, the flow sends sessions to known identifiers and to those it gets itself. -/
def Flow.Sourced : Flow α → (Uuid → Prop) → Prop
  | .done _, _ => True
  | .ask call next, known => ∀ reply,
    (∀ id, (call.deed reply).postsTo (Cache.Key.captchaSession id) = true → known id) ∧
      (next reply).Sourced fun id => known id ∨ call.deed reply = .named id

namespace Flow

theorem Sourced.mono (flow : Flow α) (known more : Uuid → Prop) (sourced : flow.Sourced known)
    (wider : ∀ id, known id → more id) : flow.Sourced more := by
  induction flow generalizing known more with
  | done value => exact trivial
  | ask call next ih =>
      intro reply
      refine ⟨fun id posts => wider id ((sourced reply).1 id posts), ?_⟩
      exact ih reply _ _ (sourced reply).2 fun id => Or.imp_left (wider id)

theorem Sourced.bind (flow : Flow α) (next : α → Flow β) (known : Uuid → Prop)
    (first : flow.Sourced known) (second : ∀ value more, (next value).Sourced more) :
    (flow.bind next).Sourced known := by
  induction flow generalizing known with
  | done value => exact second value known
  | ask call rest ih =>
      intro reply
      exact ⟨(first reply).1, ih reply _ (first reply).2⟩

/-- A flow that sends nothing has no need to know anything. -/
theorem sourced_of_only (flow : Flow α)
    (only : flow.Only fun deed => ∀ key, deed.postsTo key = false) (known : Uuid → Prop) :
    flow.Sourced known := by
  induction flow generalizing known with
  | done value => exact trivial
  | ask call next ih =>
      intro reply
      refine ⟨fun id posts => ?_, ih reply (only.2 reply) _⟩
      rw [only.1 reply] at posts
      cases posts

end Flow

theorem Deed.postsTo_of_calm (deed : Deed) (calm : deed.calm = true) (key : String) :
    deed.postsTo key = false := by
  cases deed with
  | stored place value => cases calm
  | sent place value => cases calm
  | _ => rfl

theorem Flow.Calm.sourced (flow : Flow α) (calm : flow.Calm) (known : Uuid → Prop) :
    flow.Sourced known :=
  sourced_of_only flow (calm.only.mono _ _ _ Deed.postsTo_of_calm) known

/-! ## What a call does -/

/-- Whom a call asks to be stored. -/
def Call.newcomer : {β : Type} → Call β → Option NewUser
  | _, .store _ (.create new) => some new
  | _, _ => none

/-- The user that has been stored, going by the reply. -/
def Call.joiner : {β : Type} → Call β → β → Option User
  | _, .store _ (.create _), .answered (.ok user) => some user
  | _, _, _ => none

namespace World

theorem HandedOut.later (world later : World ν) (issued : world.issued ≤ later.issued) (id : Uuid)
    (out : world.HandedOut surroundings id) : later.HandedOut surroundings id := by
  obtain ⟨position, before, named⟩ := out
  exact ⟨position, before.trans_le issued, named⟩

/-- A user has been stored as asked, under the identifier that was used up for it. -/
structure Joined (world : World ν) (new : NewUser) (user : User) (later : World ν) : Prop where
  created : world.registry.create (surroundings.ids world.issued) world.wall new =
    (.ok user, later.registry)
  issued : later.issued = world.issued + 1

theorem Joined.gains (world later : World ν) (new : NewUser) (user : User)
    (joined : world.Joined surroundings new user later) :
    user = ⟨surroundings.ids world.issued, new.name, new.email, new.passwordHash, world.wall⟩ ∧
      world.registry.Gains user later.registry := by
  rcases world.registry.create_gains (surroundings.ids world.issued) world.wall new with
    ⟨-, taken⟩ | ⟨after, created, gains⟩
  · cases joined.created.symm.trans taken
  · obtain ⟨is, same⟩ := Prod.mk.inj (joined.created.symm.trans created)
    obtain rfl := Except.ok.inj is
    exact ⟨rfl, same ▸ gains⟩

theorem Joined.handedOut (world later : World ν) (new : NewUser) (user : User)
    (joined : world.Joined surroundings new user later) : later.HandedOut surroundings user.id := by
  obtain ⟨is, -⟩ := joined.gains
  rw [is]
  exact ⟨world.issued, joined.issued ▸ Nat.lt_succ_self _, rfl⟩

variable [Throttle.Arithmetic ν] (world : World ν) (call : Call β)

theorem joined_answer :
    let answered := world.answer surroundings call
    (call.joiner answered.1 = none ∧ answered.2.registry = world.registry ∧
        world.issued ≤ answered.2.issued) ∨
      ∃ new user, call.newcomer = some new ∧ call.joiner answered.1 = some user ∧
        world.Joined surroundings new user answered.2 := by
  intro answered
  have answers : answered = world.answer surroundings call := rfl
  cases quiet : call.quiet with
  | true =>
      have still := world.still_answer surroundings call quiet
      refine Or.inl ⟨?_, still.registry, still.issued.ge⟩
      cases call with
      | store limit request =>
          cases request with
          | create new => cases quiet
          | findByEmail email => rfl
          | findById id => rfl
      | _ => rfl
  | false =>
      cases call with
      | freshId => exact Or.inl ⟨rfl, rfl, Nat.le_succ _⟩
      | store limit request =>
          cases request with
          | findByEmail email => cases quiet
          | findById id => cases quiet
          | create new =>
              rw [answer] at answers
              rcases under_cases (surroundings.store world.storeCalls) limit
                { world with storeCalls := world.storeCalls + 1 }
                (storeWork surroundings (.create new)) with works | ⟨still, unanswered⟩
              · obtain ⟨clock, waited⟩ := wait_clock { world with
                  storeCalls := world.storeCalls + 1 } (surroundings.store world.storeCalls).delay
                rw [works, waited] at answers
                simp only [storeWork, freshId] at answers
                rcases world.registry.create_gains (surroundings.ids world.issued) world.wall new
                  with ⟨-, taken⟩ | ⟨after, created, -⟩
                · rw [taken] at answers
                  rw [answers]
                  exact Or.inl ⟨rfl, rfl, Nat.le_succ _⟩
                · rw [created] at answers
                  rw [answers]
                  exact Or.inr ⟨new, _, rfl, rfl, created, rfl⟩
              · rw [← answers] at still unanswered
                refine Or.inl ⟨?_, still.registry, still.issued.ge⟩
                rcases replied : answered.1 with ⟨failure | user⟩ | _
                · rfl
                · exact absurd replied (unanswered user)
                · rfl
      | _ => cases quiet

theorem issued_answer : world.issued ≤ (world.answer surroundings call).2.issued := by
  rcases world.joined_answer surroundings call with ⟨-, -, issued⟩ | ⟨new, user, -, -, joined⟩
  · exact issued
  · exact Nat.le_of_lt (joined.issued ▸ Nat.lt_succ_self _)

theorem handedOut_named (id : Uuid)
    (named : call.deed (world.answer surroundings call).1 = .named id) :
    (world.answer surroundings call).2.HandedOut surroundings id := by
  cases call with
  | freshId =>
      cases named
      exact ⟨world.issued, Nat.lt_succ_self _, rfl⟩
  | cache limit request =>
      rcases reply : (world.answer surroundings (.cache limit request)).1 with ⟨_ | _⟩ | _ <;>
        rw [reply] at named <;> cases request <;> cases named
  | _ => cases named

/-- Where everything is stored under identifiers that have been handed out, it is so after a call
that sends sessions to such identifiers only. -/
theorem Sourced.answer (sourced : world.Sourced surroundings)
    (sends : ∀ id, (call.deed (world.answer surroundings call).1).postsTo
      (Cache.Key.captchaSession id) = true → world.HandedOut surroundings id) :
    (world.answer surroundings call).2.Sourced surroundings := by
  have issued := world.issued_answer surroundings call
  refine ⟨fun id user there => ?_, fun id there => ?_⟩
  · rcases world.joined_answer surroundings call with ⟨-, same, -⟩ | ⟨new, joiner, -, -, joined⟩
    · rw [same] at there
      exact (sourced.users id user there).later surroundings _ _ issued
    · obtain ⟨-, -, puts⟩ := joined.gains
      rw [puts, Table.get?_put] at there
      by_cases own : id = joiner.id
      · rw [own]
        exact joined.handedOut
      · rw [if_neg own] at there
        exact (sourced.users id user there).later surroundings _ _ issued
  · cases posts : (call.deed (world.answer surroundings call).1).postsTo
        (Cache.Key.captchaSession id) with
    | true => exact (sends id posts).later surroundings _ _ issued
    | false =>
        have holds := congrFun (Captcha.held_call surroundings call world)
          (Cache.Key.captchaSession id)
        rcases Captcha.held_after ⟨Captcha.held world, []⟩ _ _ posts with same | lost
        · have before : world.stored.sessions id ≠ none := by
            intro none
            exact there ((holds.trans same).trans none)
          exact (sourced.sessions id before).later surroundings _ _ issued
        · exact absurd (holds.trans lost) there

end World

/-! ## Flows underway -/

theorem Crew.issued_after_turn [Throttle.Arithmetic ν] (crew : Crew ν α) (number : Nat) :
    crew.world.issued ≤ (crew.after surroundings (.turn number)).world.issued := by
  cases present : crew.flows[number]? with
  | none => rw [crew.after_turn_absent surroundings number present]
  | some flow =>
      rw [crew.after_turn surroundings number flow present]
      cases flow with
      | done value => exact le_rfl
      | ask call next => exact crew.world.issued_answer surroundings call

/-- Everything is stored under identifiers that have been handed out, and will be. -/
structure Crew.Sourced (crew : Crew ν α) : Prop where
  world : crew.world.Sourced surroundings
  flows : ∀ flow ∈ crew.flows, flow.Sourced (crew.world.HandedOut surroundings)

theorem Crew.Sourced.turn [Throttle.Arithmetic ν] (crew : Crew ν α)
    (sourced : crew.Sourced surroundings) (number : Nat) :
    (crew.after surroundings (.turn number)).Sourced surroundings := by
  cases present : crew.flows[number]? with
  | none =>
      rw [crew.after_turn_absent surroundings number present]
      exact sourced
  | some flow =>
      have underway := sourced.flows flow (List.mem_of_getElem? present)
      rw [crew.after_turn surroundings number flow present]
      cases flow with
      | done value =>
          refine ⟨sourced.world, fun other inside => ?_⟩
          rcases List.mem_or_eq_of_mem_set inside with old | rfl
          · exact sourced.flows other old
          · exact trivial
      | ask call next =>
          obtain ⟨sends, rest⟩ := underway (crew.world.answer surroundings call).1
          have issued := crew.world.issued_answer surroundings call
          refine ⟨World.Sourced.answer surroundings crew.world call sourced.world sends,
            fun other inside => ?_⟩
          rcases List.mem_or_eq_of_mem_set inside with old | rfl
          · exact (sourced.flows other old).mono _ _ _
              (World.HandedOut.later surroundings _ _ issued)
          · refine rest.mono _ _ _ fun id known => ?_
            rcases known with out | named
            · exact out.later surroundings _ _ issued
            · exact crew.world.handedOut_named surroundings call id named

end Service

/-! ## The flows of requests -/

namespace Account

open Service

theorem sourced_signup (settings : Settings) (input : Signup) (known : Uuid → Prop) :
    (signup settings input).Sourced known :=
  Flow.sourced_of_only _
    ((signup_only settings input).mono _ _ _ Deed.postsTo_of_calm) known

theorem sourced_login (settings : Settings) (input : Login) (known : Uuid → Prop) :
    (login settings input).Sourced known := by
  refine Flow.sourced_of_only _ (Flow.Only.andThen _ _ _ ?_ fun _ =>
    (checkCredentials_calm settings input).mono _ _ _ Deed.postsTo_of_calm) known
  rw [checkCaptcha]
  split
  · cases input.captcha with
    | none => exact trivial
    | some captcha =>
        refine ⟨fun now key => rfl, fun now => ?_⟩
        simp only [Captcha.verifyAt]
        cases Uuid.ofText? (Text.trimmed captcha.session) with
        | none => exact trivial
        | some id =>
            refine Flow.Only.andThen _ _ _ ⟨fun reply => ?_, fun reply => ?_⟩ fun found => ?_
            · rcases reply with ⟨_ | _⟩ | _ <;> exact fun key => rfl
            · rcases reply with ⟨_ | _⟩ | _ <;> exact trivial
            · cases found <;> exact trivial
  · exact trivial

end Account

namespace Captcha

open Service

theorem sourced_generate (settings : Settings) (known : Uuid → Prop) :
    (Captcha.generate settings).Sourced known := by
  intro now
  refine ⟨fun id posts => (by cases posts), ?_⟩
  show (generateAt settings now).Sourced _
  rw [generateAt]
  rintro ⟨problem, drawn⟩
  refine ⟨fun id posts => (by cases posts), ?_⟩
  cases drawn with
  | error failure => exact trivial
  | ok canvas =>
      intro id
      refine ⟨fun other posts => (by cases posts), ?_⟩
      cases problem.answer with
      | error crash => exact trivial
      | ok answer =>
          refine Flow.Sourced.bind _ _ _ (fun reply => ⟨fun other posts => ?_, ?_⟩) ?_
          · obtain ⟨value, sends⟩ := (Deed.postsTo_iff _ _).mp posts
            have here := deed_set_posts (Cache.Key.captchaSession id)
              (Session.text ⟨problem.question, answer, now⟩) lifetimeNanos reply
            obtain ⟨same, -⟩ := Deed.posts_unique _ _ _ _ _ here sends
            exact Or.inr (congrArg Deed.named (Cache.Key.captchaSession_injective id other same))
          · rcases reply with ⟨_ | _⟩ | _ <;> exact trivial
          · intro outcome more
            cases outcome <;> exact trivial

end Captcha

namespace Http

open Service

section

variable (settings : Config.Settings) (request : Request)

theorem sourced_answering {α : Type} (render : α → Response) (flow : Flow (Outcome α))
    (known : Uuid → Prop) (sourced : flow.Sourced known) :
    (answering render flow).Sourced known :=
  sourced.bind _ _ _ fun _ _ => trivial

theorem sourced_serve (endpoint : Endpoint) (known : Uuid → Prop) :
    (serve settings request endpoint).Sourced known := by
  cases looks : endpoint.looks with
  | true => exact (calm_serve settings request endpoint looks).sourced _ known
  | false =>
      cases endpoint with
      | signup =>
          rw [serve, signup]
          split
          · exact trivial
          · exact sourced_answering _ _ known (Account.sourced_signup _ _ known)
      | login =>
          rw [serve, login]
          split
          · exact trivial
          · intro now
            refine ⟨fun id posts => (by cases posts), ?_⟩
            exact (Account.sourced_login _ _ _).bind _ _ _ fun _ _ => trivial
      | captcha => exact sourced_answering _ _ known (Captcha.sourced_generate _ known)
      | _ => cases looks

theorem sourced_behindGate (endpoint : Endpoint) (passed : Bool) (known : Uuid → Prop) :
    (behindGate settings request endpoint passed).Sourced known := by
  rw [behindGate]
  split
  · split
    · exact sourced_serve settings request endpoint known
    · exact trivial
  · exact trivial

theorem sourced_respond (known : Uuid → Prop) : (respond settings request).Sourced known := by
  have traces : (traceOf request).Sourced known := by
    rw [traceOf]
    split
    · exact trivial
    · exact fun id => ⟨fun other posts => (by cases posts), trivial⟩
  refine traces.bind _ _ _ fun trace more => ?_
  refine Flow.Sourced.bind _ _ _ ?_ fun response _ => trivial
  rw [atPath]
  by_cases options : request.method = .options
  · rw [if_pos options]
    exact trivial
  · rw [if_neg options]
    refine Flow.Sourced.bind _ _ _ ?_ fun response _ => trivial
    cases Endpoint.ofPath? request.path with
    | none => exact trivial
    | some endpoint =>
        refine ((calm_passes settings request endpoint).sourced _ more).bind _ _ _
          fun passed further => ?_
        exact (sourced_behindGate settings request endpoint passed further).bind _ _ _
          fun response _ => trivial

end

/-! ## States that requests can bring about -/

/-- The service starts empty.  Requests arrive and are underway side by side.  Meanwhile time passes by
every clock, buckets are swept and counters pruned, and sessions run out or are pushed out of the
cache. -/
inductive Reached {ν : Type} [Throttle.Arithmetic ν] (surroundings : Surroundings)
    (settings : Config.Settings) : Crew ν Response → Prop
  | start (wall : Instant) (room : Nat) (buckets : Throttle.Buckets ν) :
      Reached surroundings settings ⟨.start wall room buckets, []⟩
  | arrive (crew : Crew ν Response) (reached : Reached surroundings settings crew)
      (request : Request) :
      Reached surroundings settings ⟨crew.world, respond settings request :: crew.flows⟩
  | turn (crew : Crew ν Response) (reached : Reached surroundings settings crew) (number : Nat) :
      Reached surroundings settings (crew.after surroundings (.turn number))
  | drift (crew : Crew ν Response) (reached : Reached surroundings settings crew)
      (later : World ν) (registry : later.registry = crew.world.registry)
      (issued : later.issued = crew.world.issued)
      (fades : ∀ id, later.stored.sessions id = crew.world.stored.sessions id ∨
        later.stored.sessions id = none) :
      Reached surroundings settings ⟨later, crew.flows⟩

theorem Reached.sourced {ν : Type} [Throttle.Arithmetic ν] (surroundings : Surroundings)
    (settings : Config.Settings) (crew : Crew ν Response)
    (reached : Reached surroundings settings crew) : crew.Sourced surroundings := by
  induction reached with
  | start wall room buckets =>
      refine ⟨⟨?_, ?_⟩, ?_⟩
      · intro id user there
        cases there
      · intro id there
        exact absurd rfl there
      · intro flow inside
        cases inside
  | arrive crew reached request ih =>
      refine ⟨ih.world, fun flow inside => ?_⟩
      rcases List.mem_cons.mp inside with rfl | old
      · exact sourced_respond settings request _
      · exact ih.flows flow old
  | turn crew reached number ih => exact ih.turn surroundings crew number
  | drift crew reached later registry issued fades ih =>
      have out := World.HandedOut.later surroundings crew.world later issued.ge
      refine ⟨⟨fun id user there => ?_, fun id there => ?_⟩, fun flow inside => ?_⟩
      · rw [registry] at there
        exact out id (ih.world.users id user there)
      · rcases fades id with same | gone
        · exact out id (ih.world.sessions id (same ▸ there))
        · exact absurd gone there
      · exact (ih.flows flow inside).mono _ _ _ out

end Http

end Gatehouse

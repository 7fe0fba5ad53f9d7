import Gatehouse.Http.Application
import Gatehouse.Proofs.Account.Admissions
import Gatehouse.Proofs.Captcha.Lifecycle

/-!
# What requests leave as it was

The registry and the pending sessions are all that outlasts a request.  Most of
what is done for a request touches neither (`Flow.Calm`): the way to an endpoint
does not, nor do the endpoints that renew tokens, show a profile and tell how the
service is doing.  So a request does to what is stored what its endpoint does
(`dealt_respond`).
-/

set_option autoImplicit false

namespace Gatehouse

namespace Service

variable {ν α β : Type}

/-- What outlasts a request: the users, and the sessions of challenges by their identifiers. -/
@[ext] structure Stored where
  registry : Registry
  sessions : Uuid → Option String

/-- A session is there until it is taken out, whether it has run out or not. -/
def World.stored (world : World ν) : Stored :=
  ⟨world.registry, fun id => Captcha.held world (Cache.Key.captchaSession id)⟩

/-- Nothing that is stored has changed since, and it is the same instant. -/
structure World.Kept (before after : World ν) : Prop where
  stored : after.stored = before.stored
  wall : after.wall = before.wall
  issued : before.issued ≤ after.issued

theorem World.Kept.trans (first second third : World ν) (early : first.Kept second)
    (late : second.Kept third) : first.Kept third :=
  ⟨late.stored.trans early.stored, late.wall.trans early.wall, early.issued.trans late.issued⟩

theorem World.stored_eq (before after : World ν) (registry : after.registry = before.registry)
    (held : Captcha.held after = Captcha.held before) : after.stored = before.stored := by
  rw [stored, stored, registry, held]

/-! ## Calm flows -/

/-- The deed has nothing to do with the values of the cache. -/
def Deed.calm : Deed → Bool
  | .stored _ _ | .sent _ _ | .took _ _ | .missed _ | .deleted _ => false
  | _ => true

theorem Deed.after_calm (deed : Deed) (calm : deed.calm = true) (shelf : Captcha.Shelf) :
    (shelf.after deed).held = shelf.held := by
  cases deed with
  | named id => rfl
  | dated now => rfl
  | credential => rfl
  | other => rfl
  | _ => cases calm

theorem Flow.Only.mono (allowed more : Deed → Prop) (flow : Flow α) (only : flow.Only allowed)
    (wider : ∀ deed, allowed deed → more deed) : flow.Only more := by
  induction flow with
  | done value => exact trivial
  | ask call next ih =>
      exact ⟨fun reply => wider _ (only.1 reply), fun reply => ih reply (only.2 reply)⟩

theorem Flow.only_askStore (allowed : Deed → Prop) (credential : allowed .credential) (limit : Nat)
    (request : StoreCall α) : (Flow.askStore limit request).Only allowed := by
  refine ⟨fun reply => credential, fun reply => ?_⟩
  cases reply with
  | answered result => exact trivial
  | late => exact trivial

/-- Whatever the replies, the flow adds no user and leaves the values of the cache alone. -/
structure Flow.Calm (flow : Flow α) : Prop where
  quiet : flow.Quiet
  only : flow.Only fun deed => deed.calm = true

namespace Flow

theorem calm_done (value : α) : (Flow.done value).Calm :=
  ⟨trivial, trivial⟩

theorem Calm.bind (flow : Flow α) (next : α → Flow β) (first : flow.Calm)
    (second : ∀ value, (next value).Calm) : (flow.bind next).Calm :=
  ⟨first.quiet.bind _ _ fun value => (second value).quiet,
    first.only.bind _ _ _ fun value => (second value).only⟩

theorem Calm.andThen (flow : Flow (Outcome α)) (next : α → Flow (Outcome β)) (first : flow.Calm)
    (second : ∀ value, (next value).Calm) : (flow.andThen next).Calm :=
  ⟨first.quiet.andThen _ _ fun value => (second value).quiet,
    first.only.andThen _ _ _ fun value => (second value).only⟩

theorem calm_ask (call : Call β) (next : β → Flow α) (quiet : call.quiet = true)
    (calm : ∀ reply, (call.deed reply).calm = true) (rest : ∀ reply, (next reply).Calm) :
    (Flow.ask call next).Calm :=
  ⟨⟨quiet, fun reply => (rest reply).quiet⟩, ⟨calm, fun reply => (rest reply).only⟩⟩

theorem calm_askStore (limit : Nat) (request : StoreCall α)
    (quiet : (Call.store limit request).quiet = true) : (Flow.askStore limit request).Calm :=
  ⟨quiet_askStore limit request quiet, only_askStore (fun deed => deed.calm = true) rfl limit request⟩

variable [Throttle.Arithmetic ν] (surroundings : Surroundings)

theorem held_run (flow : Flow α) (only : flow.Only fun deed => deed.calm = true)
    (world : World ν) : Captcha.held (flow.run surroundings world).2 = Captcha.held world := by
  induction flow generalizing world with
  | done value => rfl
  | ask call next ih =>
      have first : Captcha.held (world.answer surroundings call).2 = Captcha.held world := by
        rw [Captcha.held_call, Deed.after_calm _ (only.1 _)]
      exact (ih _ (only.2 _) _).trans first

theorem Calm.run (flow : Flow α) (calm : flow.Calm) (world : World ν) :
    world.Kept (flow.run surroundings world).2 := by
  have still := still_run surroundings flow calm.quiet world
  exact ⟨World.stored_eq _ _ still.registry (held_run surroundings flow calm.only world),
    still.wall, still.issued.ge⟩

end Flow

end Service

/-! ## The endpoints that change nothing -/

namespace Account

open Service

theorem calm_refresh (settings : Settings) (presented : String) :
    (refresh settings presented).Calm := by
  refine Flow.calm_ask _ _ rfl (fun now => rfl) fun now => ?_
  rw [refreshAt]
  split
  · exact Flow.calm_done _
  · refine Flow.Calm.andThen _ _ (Flow.calm_askStore _ _ rfl) fun found => ?_
    cases found with
    | none => exact Flow.calm_done _
    | some user => exact Flow.calm_done _

theorem signup_only (settings : Settings) (input : Signup) :
    (signup settings input).Only fun deed => deed.calm = true := by
  refine Flow.Only.andThen _ _ _ (Flow.only_askStore (fun deed => deed.calm = true) rfl _ _)
    fun found => ?_
  cases found with
  | some user => exact trivial
  | none =>
      refine ⟨fun hashed => rfl, fun hashed => ?_⟩
      cases hashed with
      | error failure => exact trivial
      | ok hash =>
          exact Flow.Only.andThen _ _ _ (Flow.only_askStore (fun deed => deed.calm = true) rfl _ _)
            fun user => ⟨fun now => rfl, fun now => trivial⟩

theorem checkCredentials_calm (settings : Settings) (input : Login) :
    (checkCredentials settings input).Only fun deed => deed.calm = true := by
  refine (checkCredentials_only settings input).mono _ _ _ fun deed looks => ?_
  rcases looks with rfl | ⟨now, rfl⟩
  · rfl
  · rfl

end Account

namespace Http

open Service

theorem Endpoint.ofPath?_eq_some (text : String) (endpoint : Endpoint)
    (found : Endpoint.ofPath? text = some endpoint) : text = endpoint.path := by
  have same := List.find?_some found
  exact (beq_iff_eq.mp same).symm

section

variable (settings : Config.Settings) (request : Request)

theorem calm_answering {α : Type} (render : α → Response) (flow : Flow (Outcome α))
    (calm : flow.Calm) : (answering render flow).Calm :=
  Flow.Calm.bind _ _ calm fun _ => Flow.calm_done _

theorem calm_caller : (caller settings request).Calm := by
  refine Flow.calm_ask _ _ rfl (fun now => rfl) fun now => ?_
  dsimp only
  split
  · exact Flow.calm_done _
  · refine Flow.Calm.andThen _ _ (Flow.calm_askStore _ _ rfl) fun found => ?_
    cases found with
    | none => exact Flow.calm_done _
    | some user => exact Flow.calm_done _

/-- The endpoints that only look. -/
def Endpoint.looks : Endpoint → Bool
  | .refresh | .me | .health => true
  | .signup | .login | .captcha => false

theorem calm_serve (endpoint : Endpoint) (looks : endpoint.looks = true) :
    (serve settings request endpoint).Calm := by
  cases endpoint with
  | refresh =>
      rw [serve, refresh]
      split
      · exact Flow.calm_done _
      · exact calm_answering _ _ (Account.calm_refresh _ _)
  | me => exact calm_answering _ _ (calm_caller settings request)
  | health =>
      refine Flow.calm_ask _ _ rfl (fun reply => ?_) fun reply => Flow.calm_done _
      rcases reply with ⟨_ | _⟩ | _ <;> rfl
  | signup => cases looks
  | login => cases looks
  | captcha => cases looks

/-! ## The way to an endpoint -/

theorem calm_passes (endpoint : Endpoint) : (passes settings request endpoint).Calm := by
  rw [passes]
  split
  · cases settings.rateLimit.backend with
    | memory => exact Flow.calm_ask _ _ rfl (fun allowed => rfl) fun allowed => Flow.calm_done _
    | shared =>
        refine Flow.calm_ask _ _ rfl (fun reply => ?_) fun reply => ?_
        · rcases reply with ⟨_ | _⟩ | _ <;> rfl
        · rcases reply with ⟨_ | _⟩ | _ <;> exact Flow.calm_done _
  · exact Flow.calm_done _

variable {ν : Type} [Throttle.Arithmetic ν] (surroundings : Surroundings)

theorem kept_traceOf (world : World ν) :
    world.Kept ((traceOf request).run surroundings world).2 := by
  rw [traceOf]
  split
  · exact ⟨rfl, rfl, le_rfl⟩
  · exact ⟨rfl, rfl, Nat.le_succ _⟩

/-- How a request may be dealt with: it is turned away on the way to an endpoint, or its endpoint
serves it.  Nothing stored has changed until then, and what the way adds to an answer leaves its
status alone. -/
inductive Dealt (world : World ν) (response : Response) (later : World ν) : Prop
  | turnedAway (kept : world.Kept later) (status : response.status ≠ 201)
      (granted : response.status = 200 → request.method = .options)
  | served (endpoint : Endpoint) (reached : request.path = endpoint.path)
      (serves : endpoint.serves request.method = true) (middle : World ν)
      (kept : world.Kept middle)
      (ran : later = ((serve settings request endpoint).run surroundings middle).2)
      (status : response.status =
        ((serve settings request endpoint).run surroundings middle).1.status)
      (headers : ∀ header ∈ ((serve settings request endpoint).run surroundings middle).1.headers,
        header ∈ response.headers)

namespace Dealt

variable {settings request surroundings} {world later : World ν} {response : Response}
  (dealt : Dealt settings request surroundings world response later)

include dealt

theorem withHeaders (more : List Header) :
    Dealt settings request surroundings world (response.withHeaders more) later := by
  cases dealt with
  | turnedAway kept status granted => exact .turnedAway kept status granted
  | served endpoint reached serves middle kept ran status headers =>
      exact .served endpoint reached serves middle kept ran status fun header inside =>
        List.mem_append_left _ (headers header inside)

theorem withoutBody : Dealt settings request surroundings world response.withoutBody later := by
  cases dealt with
  | turnedAway kept status granted => exact .turnedAway kept status granted
  | served endpoint reached serves middle kept ran status headers =>
      exact .served endpoint reached serves middle kept ran status headers

theorem of_kept (before : World ν) (kept : before.Kept world) :
    Dealt settings request surroundings before response later := by
  cases dealt with
  | turnedAway after status granted =>
      exact .turnedAway (kept.trans _ _ _ after) status granted
  | served endpoint reached serves middle after ran status headers =>
      exact .served endpoint reached serves middle (kept.trans _ _ _ after) ran status headers

end Dealt

/-- What is done behind the gate, before anything is added to the answer. -/
def behindGate (endpoint : Endpoint) (passed : Bool) : Flow Response :=
  if passed then
    if endpoint.serves request.method then serve settings request endpoint else .done (.bare 405)
  else .done (.failed .tooManyRequests)

theorem atEndpoint_eq (endpoint : Endpoint) :
    atEndpoint settings request endpoint =
      (passes settings request endpoint).bind fun passed =>
        (behindGate settings request endpoint passed).bind fun response =>
          let response := if endpoint.serves request.method then response
            else response.withHeaders [endpoint.allow]
          .done (if request.method = .head then response.withoutBody else response) := rfl

/-- A request with the endpoint's own method is answered as it is behind the gate, once the gate has
decided; what the way adds to the answer are headers. -/
theorem run_atPath_own (endpoint : Endpoint) (here : request.path = endpoint.path)
    (own : request.method = endpoint.method) (world : World ν) :
    let counted := (passes settings request endpoint).run surroundings world
    let behind := (behindGate settings request endpoint counted.1).run surroundings counted.2
    (atPath settings request).run surroundings world =
      (behind.1.withHeaders (settings.server.cors.headers request), behind.2) := by
  have serves : endpoint.serves request.method = true := by simp [Endpoint.serves, own]
  have plain : request.method ≠ .options ∧ request.method ≠ .head := by
    rw [own]
    cases endpoint <;> decide
  rw [atPath, here, Endpoint.ofPath?_path, if_neg plain.1]
  simp only [Option.elim, Flow.run_bind, atEndpoint_eq, Flow.run_done, serves, if_true,
    if_neg plain.2]

theorem dealt_behindGate (endpoint : Endpoint) (reached : request.path = endpoint.path)
    (passed : Bool) (world middle : World ν) (kept : world.Kept middle) :
    Dealt settings request surroundings world
      ((behindGate settings request endpoint passed).run surroundings middle).1
      ((behindGate settings request endpoint passed).run surroundings middle).2 := by
  rw [behindGate]
  cases passed with
  | false =>
      rw [if_neg Bool.false_ne_true, Flow.run_done]
      exact .turnedAway kept (show 429 ≠ 201 by decide) (by rintro ⟨⟩)
  | true =>
      rw [if_pos rfl]
      by_cases serves : endpoint.serves request.method = true
      · rw [if_pos serves]
        exact .served endpoint reached serves middle kept rfl rfl fun header inside => inside
      · rw [if_neg serves, Flow.run_done]
        exact .turnedAway kept (show 405 ≠ 201 by decide) (by rintro ⟨⟩)

theorem dealt_atEndpoint (endpoint : Endpoint) (reached : request.path = endpoint.path)
    (world : World ν) :
    Dealt settings request surroundings world
      ((atEndpoint settings request endpoint).run surroundings world).1
      ((atEndpoint settings request endpoint).run surroundings world).2 := by
  have kept := (calm_passes settings request endpoint).run surroundings _ world
  rcases counted : (passes settings request endpoint).run surroundings world with ⟨passed, middle⟩
  rw [counted] at kept
  have behind := dealt_behindGate settings request surroundings endpoint reached passed world middle
    kept
  rw [atEndpoint_eq, Flow.run_bind, counted, Flow.run_bind]
  generalize (behindGate settings request endpoint passed).run surroundings middle = ran at behind ⊢
  have allowed : Dealt settings request surroundings world
      (if endpoint.serves request.method then ran.1 else ran.1.withHeaders [endpoint.allow])
      ran.2 := by
    split
    · exact behind
    · exact behind.withHeaders _
  rw [Flow.run_done]
  dsimp only
  by_cases bodyless : request.method = .head
  · rw [if_pos bodyless]
    exact allowed.withoutBody
  · rw [if_neg bodyless]
    exact allowed

theorem dealt_atPath (world : World ν) :
    Dealt settings request surroundings world
      ((atPath settings request).run surroundings world).1
      ((atPath settings request).run surroundings world).2 := by
  have still : world.Kept world := ⟨rfl, rfl, le_rfl⟩
  rw [atPath]
  by_cases options : request.method = .options
  · rw [if_pos options, Flow.run_done]
    exact .turnedAway still (show 200 ≠ 201 by decide) fun _ => options
  · rw [if_neg options, Flow.run_bind]
    cases found : Endpoint.ofPath? request.path with
    | none =>
        have unknown : Dealt settings request surroundings world (.bare 404) world :=
          .turnedAway still (by decide) (by rintro ⟨⟩)
        exact unknown.withHeaders _
    | some endpoint =>
        have reached := Endpoint.ofPath?_eq_some request.path endpoint found
        exact (dealt_atEndpoint settings request surroundings endpoint reached world).withHeaders _

theorem dealt_respond (world : World ν) :
    Dealt settings request surroundings world
      ((respond settings request).run surroundings world).1
      ((respond settings request).run surroundings world).2 := by
  rw [respond, Flow.run_bind, Flow.run_bind]
  have traced := dealt_atPath settings request surroundings
    ((traceOf request).run surroundings world).2
  exact (traced.of_kept world (kept_traceOf request surroundings world)).withHeaders _

end

end Http

end Gatehouse

import Gatehouse.Proofs.Account.Contention
import Gatehouse.Proofs.Http.Footprints
import Gatehouse.Proofs.Http.Provenance
import Gatehouse.Proofs.Token.Lifetimes

/-!
# What requests do to what is stored

Three requests change what is stored, and each in one way.  A signup that is
answered with 201 adds one user; a challenge that is answered with 200 adds one
session, under an identifier that nobody has got before; and a login that has to
answer a challenge takes out the one session that it names.  Nothing else does,
whatever state requests have brought the service into (`request_effects`).
-/

set_option autoImplicit false

namespace Gatehouse

/-! ## Ten years -/

theorem Http.signable_of_validate (settings : Config.Settings) (valid : settings.validate = .ok ())
    (now : Instant) (lasting : (now.later? (Config.maxExpiryHours * 3600)).isSome) :
    Token.Signable settings.auth.tokens now :=
  Token.signable_of_validate settings valid now ((Token.isSome_hours_iff now _).mp lasting)

namespace Service

variable {ν : Type}

theorem World.HandsOut.fresh (surroundings : Surroundings) (before after : World ν) (id : Uuid)
    (gets : before.HandsOut surroundings after id) (distinct : surroundings.Distinct after.issued) :
    ¬ before.HandedOut surroundings id := by
  obtain ⟨position, least, most, named⟩ := gets
  rintro ⟨other, early, same⟩
  have equal := distinct other position (by omega) most (same.trans named.symm)
  omega

theorem World.HandsOut.of_kept (surroundings : Surroundings) (before middle after : World ν)
    (id : Uuid) (kept : before.Kept middle) (gets : middle.HandsOut surroundings after id) :
    before.HandsOut surroundings after id := by
  obtain ⟨position, least, most, named⟩ := gets
  exact ⟨position, kept.issued.trans least, most, named⟩

namespace Stored

/-- One user has joined, with the name and the address of the form, and nothing else has changed. -/
structure Joins (before : Stored) (form : Http.SignupForm) (user : User) (after : Stored) :
    Prop where
  name : user.name = form.name
  email : user.email = form.email
  fresh : before.registry.users.get? user.id = none
  registry : before.registry.Gains user after.registry
  sessions : after.sessions = before.sessions

/-- One session has been added, where there was none, and nothing else has changed. -/
structure Opens (before : Stored) (id : Uuid) (after : Stored) : Prop where
  fresh : before.sessions id = none
  registry : after.registry = before.registry
  sessions : ∃ session : Captcha.Session,
    after.sessions = Function.update before.sessions id (some session.text)

/-- One session has been taken out, if there was one, and nothing else has changed. -/
structure Closes (before : Stored) (id : Uuid) (after : Stored) : Prop where
  registry : after.registry = before.registry
  sessions : after.sessions = Function.update before.sessions id none

end Stored

end Service

namespace Http

open Service

/-- The session that a login names: in its form, or else in its cookie. -/
def LoginForm.session? (settings : Config.Settings) (request : Request) (form : LoginForm) :
    Option Uuid :=
  (form.captcha (Cookie.find? (Cookie.sent (request.values "cookie"))
    settings.captcha.cookieName)).bind fun captcha => Uuid.ofText? (Text.trimmed captcha.session)

/-! ## What an endpoint does -/

section

variable (settings : Config.Settings) (request : Request)

/-- What serving a request may have done, by the endpoint that serves it. -/
inductive Effect {ν : Type} (surroundings : Surroundings) (world : World ν) (response : Response)
    (later : World ν) : Endpoint → Prop
  | nothing (endpoint : Endpoint) (kept : later.stored = world.stored)
      (created : endpoint = .signup → response.status ≠ 201)
      (granted : endpoint = .captcha → response.status ≠ 200) :
      Effect surroundings world response later endpoint
  | joined (form : SignupForm) (body : request.form SignupForm = .ok form) (user : User)
      (name : user.name = form.name) (email : user.email = form.email)
      (got : world.HandsOut surroundings later user.id)
      (gains : world.registry.Gains user later.registry)
      (sessions : later.stored.sessions = world.stored.sessions)
      (status : response.status = 201) : Effect surroundings world response later .signup
  | opened (id : Uuid) (session : Captcha.Session) (got : world.HandsOut surroundings later id)
      (registry : later.registry = world.registry)
      (sessions : later.stored.sessions =
        Function.update world.stored.sessions id (some session.text))
      (told : Header.text "set-cookie" (Cookie.issue ⟨settings.captcha.cookieName, id.text⟩) ∈
        response.headers)
      (status : response.status = 200) : Effect surroundings world response later .captcha
  | closed (form : LoginForm) (body : request.form LoginForm = .ok form)
      (required : settings.captcha.requiredForLogin = true) (id : Uuid)
      (named : form.session? settings request = some id)
      (registry : later.registry = world.registry)
      (sessions : later.stored.sessions = Function.update world.stored.sessions id none)
      (status : response.status ≠ 429) : Effect surroundings world response later .login

/-- The same may be said from where everything stored was as it still is, and of an answer to which
headers have been added. -/
theorem Effect.carried {ν : Type} (surroundings : Surroundings) (before world later : World ν)
    (kept : before.Kept world) (served response : Response) (endpoint : Endpoint)
    (effect : Effect settings request surroundings world served later endpoint)
    (status : response.status = served.status)
    (headers : ∀ header ∈ served.headers, header ∈ response.headers) :
    Effect settings request surroundings before response later endpoint := by
  have registry : world.registry = before.registry := congrArg Stored.registry kept.stored
  cases effect with
  | nothing _ same created granted =>
      exact .nothing endpoint (same.trans kept.stored) (status ▸ created) (status ▸ granted)
  | joined form body user name email got gains sessions created =>
      rw [registry] at gains
      rw [kept.stored] at sessions
      exact .joined form body user name email (got.of_kept surroundings before world later _ kept)
        gains sessions (status.trans created)
  | opened id session got same sessions told granted =>
      rw [kept.stored] at sessions
      exact .opened id session (got.of_kept surroundings before world later _ kept)
        (same.trans registry) sessions (headers _ told) (status.trans granted)
  | closed form body required id named same sessions unthrottled =>
      rw [kept.stored] at sessions
      exact .closed form body required id named (same.trans registry) sessions
        (status ▸ unthrottled)

theorem status_failed (failure : Failure) :
    (Response.failed failure).status ≠ 200 ∧ (Response.failed failure).status ≠ 201 := by
  show failure.kind.status ≠ 200 ∧ failure.kind.status ≠ 201
  cases failure.kind <;> decide

theorem status_failed_429 (failure : Failure) (status : (Response.failed failure).status = 429) :
    failure.kind = .tooManyRequests := by
  change failure.kind.status = 429 at status
  cases kind : failure.kind <;> rw [kind] at status <;> first | rfl | cases status

variable {ν : Type} [Throttle.Arithmetic ν] (surroundings : Surroundings)

theorem run_answering {α : Type} (render : α → Response) (flow : Flow (Outcome α))
    (world : World ν) :
    (answering render flow).run surroundings world =
      (Response.ofOutcome render (flow.run surroundings world).1,
        (flow.run surroundings world).2) := by
  rw [answering, Flow.run_bind]
  rfl

theorem effect_signup (prompt : surroundings.Prompt settings.server.contextTimeoutMs)
    (world : World ν) (signable : Token.Signable settings.auth.tokens world.wall) :
    Effect settings request surroundings world
      ((signup settings request).run surroundings world).1
      ((signup settings request).run surroundings world).2 .signup := by
  rw [signup]
  cases body : request.form SignupForm with
  | error failure => exact .nothing _ rfl (fun _ => (status_failed failure).2) (by rintro ⟨⟩)
  | ok form =>
      dsimp only
      rw [run_answering]
      obtain ⟨fault, failed, kept⟩ | ⟨admission, admitted, name, email, got, gains, sessions⟩ :=
        Account.run_signup_stored surroundings (accountSettings settings) prompt
          ⟨form.name, form.email, form.password⟩ world signable
      · rw [failed]
        exact .nothing _ kept (fun _ => (status_failed _).2) (by rintro ⟨⟩)
      · rw [admitted]
        exact .joined form body admission.user name email got gains sessions rfl

theorem effect_captcha (healthy : surroundings.cache = .healthy) (world : World ν) :
    Effect settings request surroundings world
      ((captcha settings).run surroundings world).1
      ((captcha settings).run surroundings world).2 .captcha := by
  rw [captcha, run_answering]
  obtain ⟨fault, failed, kept⟩ | ⟨challenge, session, made, got, registry, sessions⟩ :=
    Captcha.run_generate_stored surroundings healthy (accountSettings settings).captcha world
  · rw [failed]
    exact .nothing _ kept (by rintro ⟨⟩) fun _ => (status_failed _).1
  · rw [made]
    exact .opened challenge.session session got registry sessions
      (List.mem_append_right _ List.mem_cons_self) rfl

theorem status_loginAnswer (dropping : List Header) (outcome : Outcome Account.Admission)
    (unthrottled : Outcome.Unthrottled outcome) : (loginAnswer dropping outcome).status ≠ 429 := by
  rcases outcome with (failure | crash) | admission
  · intro status
    exact unthrottled failure rfl (status_failed_429 failure status)
  · rintro ⟨⟩
  · rintro ⟨⟩

theorem effect_login (healthy : surroundings.cache = .healthy)
    (prompt : surroundings.Prompt settings.server.contextTimeoutMs)
    (patient : Account.Patient surroundings.hasher) (world : World ν) :
    Effect settings request surroundings world
      ((login settings request).run surroundings world).1
      ((login settings request).run surroundings world).2 .login := by
  rw [login]
  cases body : request.form LoginForm with
  | error failure => exact .nothing _ rfl (by rintro ⟨⟩) (by rintro ⟨⟩)
  | ok form =>
      have now : world.answer surroundings .now = (world.wall, world) := rfl
      dsimp only
      rw [Flow.run_ask, now, Flow.run_bind, Flow.run_done]
      obtain ⟨registry, sessions, unthrottled⟩ := Account.run_login_stored surroundings
        (accountSettings settings) healthy prompt patient ⟨form.email, form.password,
          form.captcha (Cookie.find? (Cookie.sent (request.values "cookie"))
            settings.captcha.cookieName)⟩ world
      rcases sessions with same | ⟨required, captcha, id, answered, named, gone⟩
      · exact .nothing _ (Stored.ext registry same) (by rintro ⟨⟩) (by rintro ⟨⟩)
      · refine .closed form body required id ?_ registry gone
          (status_loginAnswer _ _ unthrottled)
        exact Option.bind_eq_some_iff.mpr ⟨captcha, answered, named⟩

theorem effect_serve (healthy : surroundings.cache = .healthy)
    (prompt : surroundings.Prompt settings.server.contextTimeoutMs)
    (patient : Account.Patient surroundings.hasher) (world : World ν)
    (signable : Token.Signable settings.auth.tokens world.wall) (endpoint : Endpoint) :
    Effect settings request surroundings world
      ((serve settings request endpoint).run surroundings world).1
      ((serve settings request endpoint).run surroundings world).2 endpoint := by
  cases looks : endpoint.looks with
  | true =>
      have kept := (calm_serve settings request endpoint looks).run surroundings _ world
      refine .nothing endpoint kept.stored ?_ ?_
      · rintro rfl
        cases looks
      · rintro rfl
        cases looks
  | false =>
      cases endpoint with
      | signup => exact effect_signup settings request surroundings prompt world signable
      | login => exact effect_login settings request surroundings healthy prompt patient world
      | captcha => exact effect_captcha settings request surroundings healthy world
      | _ => cases looks

/-- A request is turned away and nothing stored has changed, or its endpoint has had its effect. -/
theorem effect_respond (healthy : surroundings.cache = .healthy)
    (prompt : surroundings.Prompt settings.server.contextTimeoutMs)
    (patient : Account.Patient surroundings.hasher) (world : World ν)
    (signable : Token.Signable settings.auth.tokens world.wall) :
    let ran := (respond settings request).run surroundings world
    (ran.2.stored = world.stored ∧ ran.1.status ≠ 201 ∧
        (ran.1.status = 200 → request.method = .options)) ∨
      ∃ endpoint, request.path = endpoint.path ∧ endpoint.serves request.method = true ∧
        Effect settings request surroundings world ran.1 ran.2 endpoint := by
  intro ran
  cases dealt_respond settings request surroundings world with
  | turnedAway kept status granted => exact Or.inl ⟨kept.stored, status, granted⟩
  | served endpoint reached serves middle kept runs status headers =>
      rw [← kept.wall] at signable
      have effect := effect_serve settings request surroundings healthy prompt patient middle
        signable endpoint
      rw [← runs] at effect
      exact Or.inr ⟨endpoint, reached, serves,
        effect.carried settings request surroundings world middle ran.2 kept _ ran.1 endpoint
          status headers⟩

/-- The endpoint refuses the body of the request. -/
def Endpoint.Refuses : Endpoint → Prop
  | .signup => ∃ failure, request.form SignupForm = .error failure
  | .login => ∃ failure, request.form LoginForm = .error failure
  | .refresh => ∃ failure, request.form RefreshForm = .error failure
  | .captcha | .me | .health => False

/-- The request comes with a body that the endpoint behind its path refuses. -/
def Request.Refused : Prop :=
  ∃ endpoint : Endpoint, request.path = endpoint.path ∧ endpoint.Refuses request

theorem Endpoint.path_injective (one other : Endpoint) (same : one.path = other.path) :
    one = other := by
  have found := ofPath?_path one
  rw [same, ofPath?_path] at found
  exact (Option.some.inj found).symm

theorem Endpoint.looks_or_refuses (endpoint : Endpoint) (here : request.path = endpoint.path)
    (idle : request.path = "/api/auth/refresh" ∨ request.path = "/api/auth/me" ∨
      request.path = "/api/health" ∨ request.Refused) :
    endpoint.looks = true ∨ endpoint.Refuses request := by
  have only : ∀ other : Endpoint, request.path = other.path → other = endpoint :=
    fun other there => other.path_injective endpoint (there.symm.trans here)
  rcases idle with there | there | there | ⟨other, there, refuses⟩
  · exact Or.inl (only .refresh there ▸ rfl)
  · exact Or.inl (only .me there ▸ rfl)
  · exact Or.inl (only .health there ▸ rfl)
  · exact Or.inr (only other there ▸ refuses)

theorem Endpoint.method_of_serves (endpoint : Endpoint) (method : Method)
    (serves : endpoint.serves method = true) :
    method = endpoint.method ∨ method = .head ∧ endpoint.method = .get := by
  simpa [Endpoint.serves] using serves

end

/-! ## What an effect comes to -/

section

variable {settings : Config.Settings} {request : Request} {ν : Type} {surroundings : Surroundings}
  {world later : World ν} {response : Response}

namespace Effect

theorem joins (effect : Effect settings request surroundings world response later .signup)
    (sourced : world.Sourced surroundings) (distinct : surroundings.Distinct later.issued)
    (status : response.status = 201) :
    ∃ form user, request.form SignupForm = .ok form ∧
      world.stored.Joins form user later.stored := by
  cases effect with
  | nothing _ kept created granted => exact absurd status (created rfl)
  | joined form body user name email got gains sessions created =>
      have fresh : world.registry.users.get? user.id = none := by
        by_contra taken
        obtain ⟨other, there⟩ := Option.ne_none_iff_exists'.mp taken
        exact got.fresh surroundings _ _ _ distinct (sourced.users _ _ there)
      exact ⟨form, user, body, name, email, fresh, gains, sessions⟩

theorem opens (effect : Effect settings request surroundings world response later .captcha)
    (sourced : world.Sourced surroundings) (distinct : surroundings.Distinct later.issued)
    (status : response.status = 200) :
    ∃ id, Header.text "set-cookie" (Cookie.issue ⟨settings.captcha.cookieName, id.text⟩) ∈
        response.headers ∧
      ¬ world.HandedOut surroundings id ∧ world.stored.Opens id later.stored := by
  cases effect with
  | nothing _ kept created granted => exact absurd status (granted rfl)
  | opened id session got registry sessions told granted =>
      have unseen := got.fresh surroundings _ _ _ distinct
      have fresh : world.stored.sessions id = none := by
        by_contra there
        exact unseen (sourced.sessions id there)
      exact ⟨id, told, unseen, fresh, registry, session, sessions⟩

theorem otherwise (endpoint : Endpoint)
    (effect : Effect settings request surroundings world response later endpoint)
    (uncreated : endpoint = .signup → response.status ≠ 201)
    (ungranted : endpoint = .captcha → response.status ≠ 200) :
    later.stored = world.stored ∨
      endpoint = .login ∧ settings.captcha.requiredForLogin = true ∧ response.status ≠ 429 ∧
        ∃ form id, request.form LoginForm = .ok form ∧ form.session? settings request = some id ∧
          world.stored.Closes id later.stored := by
  cases effect with
  | nothing _ kept created granted => exact Or.inl kept
  | joined form body user name email got gains sessions created =>
      exact absurd created (uncreated rfl)
  | opened id session got registry sessions told granted => exact absurd granted (ungranted rfl)
  | closed form body required id named registry sessions unthrottled =>
      exact Or.inr ⟨rfl, required, unthrottled, form, id, body, named, registry, sessions⟩

theorem idle (endpoint : Endpoint)
    (effect : Effect settings request surroundings world response later endpoint)
    (rests : response.status = 429 ∨ endpoint.looks = true ∨ endpoint.Refuses request) :
    later.stored = world.stored := by
  cases effect with
  | nothing _ kept created granted => exact kept
  | joined form body user name email got gains sessions created =>
      rcases rests with tooMany | looks | ⟨failure, refused⟩
      · cases created.symm.trans tooMany
      · cases looks
      · cases body.symm.trans refused
  | opened id session got registry sessions told granted =>
      rcases rests with tooMany | looks | refused
      · cases granted.symm.trans tooMany
      · cases looks
      · exact refused.elim
  | closed form body required id named registry sessions unthrottled =>
      rcases rests with tooMany | looks | ⟨failure, refused⟩
      · exact absurd tooMany unthrottled
      · cases looks
      · cases body.symm.trans refused

end Effect

end

/-! ## Any request -/

/-- Under valid settings, with a user store and a cache that work, at an instant from which ten more
years can be told, in any state that requests have brought about: a signup that is answered with 201
adds exactly its user; asking for a challenge that is answered with 200 adds exactly one session, under
an identifier that nobody has got before and that the answer tells; and no other request changes
anything, but for a login that has to answer a challenge, which may take out the session that it names.
Too many requests, a refresh, a profile, a question about the service's health and a refused body leave
everything as it was. -/
theorem request_effects {ν : Type} [Throttle.Arithmetic ν] (settings : Config.Settings)
    (valid : settings.validate = .ok ()) (surroundings : Surroundings)
    (store : surroundings.store = .healthy) (cache : surroundings.cache = .healthy)
    (patient : Account.Patient surroundings.hasher) (crew : Crew ν Response)
    (reached : Reached surroundings settings crew)
    (lasting : (crew.world.wall.later? (Config.maxExpiryHours * 3600)).isSome)
    (request : Request)
    (distinct : surroundings.Distinct
      ((respond settings request).run surroundings crew.world).2.issued) :
    let ran := (respond settings request).run surroundings crew.world
    let before := crew.world.stored
    let after := ran.2.stored
    (request.method = .post → request.path = "/api/auth/signup" → ran.1.status = 201 →
      ∃ form user, request.form SignupForm = .ok form ∧ before.Joins form user after) ∧
    (request.method = .get ∨ request.method = .head → request.path = "/api/auth/captcha" →
      ran.1.status = 200 →
      ∃ id, Header.text "set-cookie" (Cookie.issue ⟨settings.captcha.cookieName, id.text⟩) ∈
          ran.1.headers ∧
        ¬ crew.world.HandedOut surroundings id ∧ before.Opens id after) ∧
    (¬ (request.method = .post ∧ request.path = "/api/auth/signup" ∧ ran.1.status = 201) →
      ¬ ((request.method = .get ∨ request.method = .head) ∧
        request.path = "/api/auth/captcha" ∧ ran.1.status = 200) →
      after = before ∨
        request.method = .post ∧ request.path = "/api/auth/login" ∧
          settings.captcha.requiredForLogin = true ∧ ran.1.status ≠ 429 ∧
          ∃ form id, request.form LoginForm = .ok form ∧
            form.session? settings request = some id ∧ before.Closes id after) ∧
    (ran.1.status = 429 ∨ request.path = "/api/auth/refresh" ∨ request.path = "/api/auth/me" ∨
      request.path = "/api/health" ∨ request.Refused → after = before) := by
  intro ran before after
  have sourced := (reached.sourced surroundings settings crew).world
  have prompt : surroundings.Prompt settings.server.contextTimeoutMs := fun count => by
    rw [store]
    exact ⟨Nat.zero_le _, rfl⟩
  have signable := signable_of_validate settings valid crew.world.wall lasting
  rcases effect_respond settings request surroundings cache prompt patient crew.world signable with
    ⟨same, uncreated, granted⟩ | ⟨endpoint, here, serves, effect⟩
  · refine ⟨fun _ _ created => absurd created uncreated, fun reads _ status => ?_,
      fun _ _ => Or.inl same, fun _ => same⟩
    rcases reads with read | read <;> rw [granted status] at read <;> cases read
  · have only : ∀ other : Endpoint, request.path = other.path → other = endpoint :=
      fun other there => other.path_injective endpoint (there.symm.trans here)
    have method := endpoint.method_of_serves request.method serves
    refine ⟨fun _ there created => ?_, fun _ there granted => ?_, fun uncreated ungranted => ?_,
      fun rests => ?_⟩
    · obtain rfl := only .signup there
      exact effect.joins sourced distinct created
    · obtain rfl := only .captcha there
      exact effect.opens sourced distinct granted
    · have posts : endpoint.method = .post → request.method = .post := by
        intro post
        rcases method with same | ⟨-, get⟩
        · exact same.trans post
        · cases post.symm.trans get
      have unsigned : endpoint = .signup → ran.1.status ≠ 201 := by
        rintro rfl created
        exact uncreated ⟨posts rfl, here, created⟩
      have unasked : endpoint = .captcha → ran.1.status ≠ 200 := by
        rintro rfl granted
        exact ungranted ⟨method.imp_right And.left, here, granted⟩
      rcases effect.otherwise endpoint unsigned unasked with same | ⟨rfl, closes⟩
      · exact Or.inl same
      · exact Or.inr ⟨posts rfl, here, closes⟩
    · refine effect.idle endpoint (rests.imp_right fun rest => ?_)
      exact endpoint.looks_or_refuses request here rest

/-- While somebody else's challenge is underway, Ada signs up under the built-in settings, and asks for
the headers of a challenge. -/
theorem request_effects_signup_and_challenge :
    let settings : Config.Settings := { }
    let world : World ℚ := .start .epoch 10 (.empty 60 0)
    let asking : Request := ⟨.head, "/api/auth/captcha?again", [], none, []⟩
    let joining : Request := ⟨.post, "/api/auth/signup",
      [.text "content-type" "application/json"], none,
      Text.bytes "\x7b\"name\":\"ada\",\"email\":\"ada@example.com\",\"password\":\"lovelace\"\x7d"⟩
    let crew : Crew ℚ Response := ⟨world, [respond settings asking]⟩
    let joined := (respond settings joining).run Account.trial world
    let asked := (respond settings asking).run Account.trial world
    settings.validate = .ok () ∧ Account.trial.store = .healthy ∧
      Account.trial.cache = .healthy ∧ Account.Patient Account.trial.hasher ∧
      Reached Account.trial settings crew ∧
      (world.wall.later? (Config.maxExpiryHours * 3600)).isSome ∧
      Account.trial.Distinct joined.2.issued ∧ Account.trial.Distinct asked.2.issued ∧
      (∃ form user, joining.form SignupForm = .ok form ∧
        world.stored.Joins form user joined.2.stored) ∧
      ∃ id, ¬ world.HandedOut Account.trial id ∧ world.stored.Opens id asked.2.stored := by
  intro settings world asking joining crew joined asked
  have patient : Account.Patient Account.trial.hasher := by
    intro count password hash failure failed
    cases failed
  have reached : Reached Account.trial settings crew :=
    .arrive ⟨world, []⟩ (.start .epoch 10 (.empty 60 0)) asking
  have lasting : (world.wall.later? (Config.maxExpiryHours * 3600)).isSome := by decide
  have joinedDistinct := Account.trial_distinct joined.2.issued (by decide +kernel)
  have askedDistinct := Account.trial_distinct asked.2.issued (by decide +kernel)
  have joins := (request_effects settings rfl Account.trial rfl rfl patient crew reached lasting
    joining joinedDistinct).1 rfl (by decide +kernel) (by decide +kernel)
  obtain ⟨id, -, unseen, opens⟩ := (request_effects settings rfl Account.trial rfl rfl patient crew
    reached lasting asking askedDistinct).2.1 (Or.inr rfl) (by decide +kernel) (by decide +kernel)
  exact ⟨rfl, rfl, rfl, patient, reached, lasting, joinedDistinct, askedDistinct, joins, id, unseen,
    opens⟩

end Http

end Gatehouse

import Gatehouse.Proofs.Http.Members

/-!
# Whoever has signed up can log in

A login for an account that a signup has set up gives the password of the signup,
and its address in any letter case.  Its body is accepted, since the rules for
logging in ask for less than those for signing up.  And as soon as the gate and
the challenge are behind it, it finds the user of the signup and is answered with
a pair for that user.
-/

set_option autoImplicit false

namespace Gatehouse

open Service

namespace Account

/-- The login answers a challenge whose session is waiting, as the session asks for. -/
def Login.Solves {ν : Type} (input : Login) (world : World ν) : Prop :=
  ∃ captcha id stored, input.captcha = some captcha ∧
    Uuid.ofText? (Text.trimmed captcha.session) = some id ∧
    world.stored.sessions id = some stored ∧
    Captcha.verdict stored captcha.answer world.wall = .ok ()

theorem Login.Solves.of_kept {ν : Type} (input : Login) (before after : World ν)
    (solves : input.Solves before) (kept : before.Kept after) : input.Solves after := by
  obtain ⟨captcha, id, stored, given, named, waiting, right⟩ := solves
  refine ⟨captcha, id, stored, given, named, ?_, kept.wall ▸ right⟩
  rw [kept.stored]
  exact waiting

variable {ν : Type} [Throttle.Arithmetic ν] (surroundings : Surroundings) (settings : Settings)

theorem run_checkCaptcha_solved (input : Login) (world : World ν)
    (answers : world.Answers surroundings settings.captcha.limit)
    (solves : settings.captchaRequired = true → input.Solves world) :
    ∃ later, (checkCaptcha settings input).run surroundings world = (.ok (), later) ∧
      world.Still later := by
  have still := Flow.still_run surroundings _ (quiet_checkCaptcha settings input) world
  refine ⟨_, Prod.ext ?_ rfl, still⟩
  rw [checkCaptcha]
  cases required : settings.captchaRequired with
  | false => rfl
  | true =>
      obtain ⟨captcha, id, stored, given, named, waiting, right⟩ := solves required
      obtain ⟨judged, -⟩ := Captcha.run_verifyAt surroundings settings.captcha captcha.session
        captcha.answer world.wall id named world answers stored waiting
      have now : world.answer surroundings .now = (world.wall, world) := rfl
      rw [given]
      dsimp only
      rw [if_pos rfl, Captcha.verify, Flow.run_ask, now, judged, right]
      rfl

theorem run_login_stored_user (prompt : surroundings.Prompt settings.limit) (input : Login)
    (world : World ν) (answers : world.Answers surroundings settings.captcha.limit)
    (solves : settings.captchaRequired = true → input.Solves world) (user : User)
    (known : world.registry.findByEmail input.email = some user)
    (stands : surroundings.hasher.StandsFor user.passwordHash input.password)
    (signable : Token.Signable settings.tokens world.wall) :
    ∃ tokens, ((login settings input).run surroundings world).1 = .ok ⟨user, tokens⟩ := by
  obtain ⟨solved, passes, still⟩ :=
    run_checkCaptcha_solved surroundings settings input world answers solves
  rw [← still.registry] at known
  have right : ∀ count, surroundings.hasher.compare count input.password user.passwordHash =
      .ok true := by
    intro count
    rw [stands count, beq_self_eq_true]
  obtain ⟨later, checks, -, sameWall, -⟩ :=
    run_checkCredentials_known surroundings settings prompt input solved user known true right
  rw [← still.wall, ← sameWall] at signable
  obtain ⟨tokens, signed⟩ := (Token.exists_pair_iff settings.label user.principal settings.tokens
    later.wall).mpr signable
  refine ⟨tokens, ?_⟩
  rw [login, Flow.run_andThen surroundings _ _ world solved () passes, checks, if_pos rfl,
    run_issueFor_eq, signed]
  rfl

end Account

namespace Http

section

variable {ν : Type} [Throttle.Arithmetic ν] (settings : Config.Settings)
  (surroundings : Surroundings)

/-- The gate before an endpoint lets the request through. -/
def Admitted (request : Request) (endpoint : Endpoint) (world : World ν) : Prop :=
  ((passes settings request endpoint).run surroundings
    ((traceOf request).run surroundings world).2).1 = true

/-- A request that the gate lets through, with the endpoint's own method, is answered by the endpoint,
in a world in which everything that is stored is as it was. -/
theorem run_respond_admitted (request : Request) (endpoint : Endpoint)
    (here : request.path = endpoint.path) (own : request.method = endpoint.method)
    (world : World ν) (admitted : Admitted settings surroundings request endpoint world) :
    ∃ middle headers, world.Kept middle ∧
      ((respond settings request).run surroundings world).1 =
        ((serve settings request endpoint).run surroundings middle).1.withHeaders headers := by
  have traced := kept_traceOf request surroundings world
  have counted := (calm_passes settings request endpoint).run surroundings _
    ((traceOf request).run surroundings world).2
  have serves : endpoint.serves request.method = true := by simp [Endpoint.serves, own]
  refine ⟨_, settings.server.cors.headers request ++ [((traceOf request).run surroundings world).1],
    traced.trans _ _ _ counted, ?_⟩
  rw [respond, Flow.run_bind, Flow.run_bind,
    run_atPath_own settings request surroundings endpoint here own, admitted, behindGate, if_pos rfl,
    if_pos serves]
  simp [Response.withHeaders]

/-- What a request to log in comes with: its form, and a challenge that is named by the form or else by
the cookie. -/
def LoginForm.attempt (form : LoginForm) (request : Request) : Account.Login :=
  ⟨form.email, form.password, form.captcha
    (Cookie.find? (Cookie.sent (request.values "cookie")) settings.captcha.cookieName)⟩

theorem run_login_accepted (request : Request) (form : LoginForm)
    (accepted : request.form LoginForm = .ok form) (world : World ν) :
    ∃ dropping, ((serve settings request .login).run surroundings world).1 =
      loginAnswer dropping ((Account.login (accountSettings settings)
        (form.attempt settings request)).run surroundings world).1 := by
  have now : world.answer surroundings .now = (world.wall, world) := rfl
  rw [serve, login, accepted]
  dsimp only
  rw [Flow.run_ask, now, Flow.run_bind]
  exact ⟨_, rfl⟩

end

/-- The request is to log in to the account of the form, with its password, and with its address in any
letter case that is an address as well. -/
structure Request.Returns (login : Request) (form : SignupForm) (entry : LoginForm) : Prop where
  method : login.method = .post
  path : login.path = "/api/auth/login"
  reads : login.Reads entry
  email : Registry.emailKey entry.email = Registry.emailKey form.email
  valid : Email.valid entry.email = true
  password : entry.password = form.password

/-- In every state of a run, under settings that are valid and with a hasher that verifies the password
that it has hashed: every user has a name of 3 to 100 characters and an address that is accepted.
Every signup that has been answered with 201 had a form that is accepted, and the answer tells of a
user.  Unless that user has been removed, the body of a login that returns to the account is accepted;
and if the gate lets the login through and it solves its challenge, where one is asked for, the login
is answered with 200 and a pair for the same user. -/
theorem who_signs_up_logs_in {ν : Type} [Throttle.Arithmetic ν] (settings : Config.Settings)
    (valid : settings.validate = .ok ()) (surroundings : Surroundings)
    (prompt : surroundings.Prompt settings.server.contextTimeoutMs)
    (answers : ∀ world : World ν, world.Answers surroundings settings.server.contextTimeoutMs)
    (honest : surroundings.hasher.Honest) (requests : List Request) (removed : List Uuid)
    (crew : Crew ν Response) (run : Run surroundings settings requests removed crew)
    (distinct : surroundings.Distinct crew.world.issued)
    (lasting : (crew.world.wall.later? (Config.maxExpiryHours * 3600)).isSome) :
    (∀ id user, crew.world.registry.findById id = some user →
      3 ≤ user.name.length ∧ user.name.length ≤ 100 ∧ Email.valid user.email = true) ∧
    ∀ (number : Nat) (request : Request) (response : Response),
      requests[number]? = some request → crew.result? number = some response →
      request.path = "/api/auth/signup" → response.status = 201 →
      ∃ (form : SignupForm) (admission : Account.Admission), request.form SignupForm = .ok form ∧
        response.body = (Response.success 201 admission.write).body ∧
        (admission.user.id ∉ removed → ∀ (login : Request) (entry : LoginForm),
          login.Returns form entry →
          login.form LoginForm = .ok entry ∧
          (Admitted settings surroundings login .login crew.world →
            (settings.captcha.requiredForLogin = true →
              (entry.attempt settings login).Solves crew.world) →
            let ran := (respond settings login).run surroundings crew.world
            ran.1.status = 200 ∧ ∃ tokens : TokenPair, ran.1.body =
              (Response.success 200 (Account.Admission.write ⟨admission.user, tokens⟩)).body)) := by
  have roster := run.roster surroundings settings honest _ _ _ distinct
  refine ⟨fun id user found => ?_, fun number request response asked ended here created => ?_⟩
  · obtain ⟨least, most, accepted⟩ := roster.housed.fit id user found
    exact ⟨least, most, accepted⟩
  have present := (crew.result?_eq_some_iff number response).mp ended
  obtain ⟨joined, answered, known⟩ := roster.underway number _ present request asked
  obtain ⟨-, admission, is, body⟩ := answered here created
  obtain ⟨⟨form, accepted, suits⟩, stays⟩ := known admission.user is
  refine ⟨form, admission, accepted, body, fun kept login entry returns => ?_⟩
  have live := stays.resolve_right kept
  have readable := login_form_of_signup request login form entry accepted returns.reads
    returns.password returns.valid
  refine ⟨readable, fun admitted solves => ?_⟩
  obtain ⟨middle, headers, same, through⟩ := run_respond_admitted settings surroundings login .login
    returns.path returns.method crew.world admitted
  obtain ⟨dropping, serves⟩ := run_login_accepted settings surroundings login entry readable middle
  have found : middle.registry.findByEmail entry.email = some admission.user := by
    have registry : middle.registry = crew.world.registry := congrArg Stored.registry same.stored
    rw [registry, roster.housed.indexed.findByEmail_iff]
    exact ⟨live, (congrArg Registry.emailKey suits.email).trans returns.email.symm⟩
  have stands : surroundings.hasher.StandsFor admission.user.passwordHash entry.password := by
    rw [returns.password]
    exact suits.stands
  have signable := signable_of_validate settings valid crew.world.wall lasting
  rw [← same.wall] at signable
  obtain ⟨tokens, welcome⟩ := Account.run_login_stored_user surroundings (accountSettings settings)
    prompt (entry.attempt settings login) middle (answers middle)
    (fun required => (solves required).of_kept _ _ _ same) admission.user found stands signable
  intro ran
  rw [through, serves, welcome]
  exact ⟨rfl, tokens, rfl⟩

/-- Ada signs up under the built-in settings.  She comes back with her address in capitals and answers
the challenge that is waiting for her. -/
theorem who_signs_up_logs_in_capitals :
    let settings : Config.Settings := { }
    let world : World ℚ := .start .epoch 10 (.empty 60 0)
    let joining : Request := ⟨.post, "/api/auth/signup",
      [.text "content-type" "application/json"], none,
      Text.bytes "\x7b\"name\":\"ada\",\"email\":\"ada@example.com\",\"password\":\"lovelace\"\x7d"⟩
    let entering : Request := ⟨.post, "/api/auth/login",
      [.text "content-type" "application/json"], none,
      Text.bytes "\x7b\"email\":\"ADA@Example.COM\",\"password\":\"lovelace\",\"captcha_answer\":\" 2\",\"captcha_session\":\"00000000-0000-0000-0000-000000000007\"\x7d"⟩
    let joined : Crew ℚ Response := Crew.afterAll Account.trial
      ⟨world, [respond settings joining]⟩ ([0, 0, 0, 0, 0, 0].map .turn)
    let crew : Crew ℚ Response := ⟨{ joined.world with
      cache := joined.world.cache.set (Cache.Key.captchaSession ⟨7⟩)
        (Captcha.Session.text ⟨"1 + 1 = ?", 2, .epoch⟩) Captcha.lifetimeNanos 0 }, joined.flows⟩
    settings.validate = .ok () ∧ Account.trial.Prompt settings.server.contextTimeoutMs ∧
      (∀ world : World ℚ, world.Answers Account.trial settings.server.contextTimeoutMs) ∧
      Account.trial.hasher.Honest ∧ Run Account.trial settings [joining] [] crew ∧
      Account.trial.Distinct crew.world.issued ∧
      (crew.world.wall.later? (Config.maxExpiryHours * 3600)).isSome ∧
      ∃ (response : Response) (user : User) (first second : TokenPair),
        crew.result? 0 = some response ∧
        response.body = (Response.success 201 (Account.Admission.write ⟨user, first⟩)).body ∧
        ((respond settings entering).run Account.trial crew.world).1.status = 200 ∧
        ((respond settings entering).run Account.trial crew.world).1.body =
          (Response.success 200 (Account.Admission.write ⟨user, second⟩)).body := by
  intro settings world joining entering joined crew
  have valid : settings.validate = .ok () := by decide +kernel
  have prompt : Account.trial.Prompt settings.server.contextTimeoutMs :=
    fun _ => ⟨Nat.zero_le _, rfl⟩
  have answers : ∀ world : World ℚ, world.Answers Account.trial settings.server.contextTimeoutMs :=
    World.answers_of_healthy Account.trial rfl _
  have honest := Account.trial_sound.faithful.honest
  have arrived : Run Account.trial settings [joining] [] ⟨world, [respond settings joining]⟩ :=
    .arrive [] [] ⟨world, []⟩ (.start .epoch 10 (.empty 60 0)) joining
  have restocked : ∀ (crew : Crew ℚ Response) (cache : Cache.Memory),
      Run Account.trial settings [joining] [] crew →
      Run Account.trial settings [joining] [] ⟨{ crew.world with cache := cache }, crew.flows⟩ :=
    fun crew cache run => .drift _ _ crew run _ rfl rfl
  have run : Run Account.trial settings [joining] [] crew :=
    restocked joined _ (arrived.turns _ _ _ _ _ [0, 0, 0, 0, 0, 0])
  have distinct := Account.trial_distinct crew.world.issued (by decide +kernel)
  have lasting : (crew.world.wall.later? (Config.maxExpiryHours * 3600)).isSome := by decide +kernel
  have created : (crew.result? 0).map Response.status = some 201 := by decide +kernel
  obtain ⟨response, ended, status⟩ := Option.map_eq_some_iff.mp created
  obtain ⟨form, admission, accepted, body, stays⟩ := (who_signs_up_logs_in settings valid Account.trial
    prompt answers honest [joining] [] crew run distinct lasting).2 0 joining response rfl ended
    (by decide +kernel) status
  have read : joining.form SignupForm = .ok ⟨"ada", "ada@example.com", "lovelace"⟩ := by
    decide +kernel
  obtain rfl := Except.ok.inj (accepted.symm.trans read)
  have returns : entering.Returns ⟨"ada", "ada@example.com", "lovelace"⟩
      ⟨"ADA@Example.COM", "lovelace", some " 2", some "00000000-0000-0000-0000-000000000007"⟩ :=
    { method := rfl
      path := by decide +kernel
      reads := ⟨by decide +kernel, by decide +kernel, by decide +kernel⟩
      email := by decide +kernel
      valid := by decide +kernel
      password := rfl }
  obtain ⟨-, welcome⟩ := stays List.not_mem_nil entering _ returns
  have admitted : Admitted settings Account.trial entering .login crew.world := by
    unfold Admitted
    decide +kernel
  have solves : (LoginForm.attempt settings ⟨"ADA@Example.COM", "lovelace", some " 2",
      some "00000000-0000-0000-0000-000000000007"⟩ entering).Solves crew.world :=
    ⟨⟨"00000000-0000-0000-0000-000000000007", " 2"⟩, ⟨7⟩,
      Captcha.Session.text ⟨"1 + 1 = ?", 2, .epoch⟩, by decide +kernel, by decide +kernel,
      by decide +kernel, by decide +kernel⟩
  obtain ⟨granted, tokens, told⟩ := welcome admitted fun _ => solves
  exact ⟨valid, prompt, answers, honest, run, distinct, lasting, response, admission.user,
    admission.tokens, tokens, ended, body, granted, told⟩

end Http

end Gatehouse

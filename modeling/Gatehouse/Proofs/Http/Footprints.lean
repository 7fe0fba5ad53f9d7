import Gatehouse.Proofs.Account.FailedSignups
import Gatehouse.Proofs.Http.Stored
import Gatehouse.Proofs.Captcha.Accounting

/-!
# What the services leave behind

What signing up, asking for a challenge and logging in do to what is stored, by
their results.  A signup that ends well has added its user and nothing else, and
one that fails has changed nothing, as long as pairs can be signed.  Asking for a
challenge adds a session or nothing, and a login takes out the session that it
names or nothing.
-/

set_option autoImplicit false

namespace Gatehouse

namespace Service

variable {ν : Type}

/-- The identifier has been handed out in between. -/
def World.HandsOut (surroundings : Surroundings) (before after : World ν) (id : Uuid) : Prop :=
  ∃ position, before.issued ≤ position ∧ position < after.issued ∧ surroundings.ids position = id

end Service

/-! ## Whether too many requests are to blame -/

/-- If anything went wrong, it was not that there were too many requests. -/
def Outcome.Unthrottled {α : Type} (outcome : Outcome α) : Prop :=
  ∀ failure, outcome = .error (.failure failure) → failure.kind ≠ .tooManyRequests

namespace Outcome

theorem unthrottled_ok {α : Type} (value : α) : Unthrottled (.ok value : Outcome α) := by
  intro failure failed
  cases failed

theorem unthrottled_failure {α : Type} (failure : Failure)
    (blameless : failure.kind ≠ .tooManyRequests) :
    Unthrottled (.error (.failure failure) : Outcome α) := by
  intro other failed
  cases failed
  exact blameless

theorem unthrottled_bind {α β : Type} (first : Outcome α) (next : α → Outcome β)
    (early : Unthrottled first) (late : ∀ value, Unthrottled (next value)) :
    Unthrottled (first >>= next) := by
  cases first with
  | ok value => exact late value
  | error fault =>
      intro failure failed
      cases failed
      exact early failure rfl

end Outcome

theorem Token.unthrottled_issuePair (label : String) (principal : Principal)
    (settings : TokenSettings) (now : Instant) :
    Outcome.Unthrottled (issuePair label principal settings now) := by
  intro failure failed
  rw [kind_of_issuePair_error _ _ _ _ _ failed]
  decide

theorem Service.Flow.unthrottled_andThen {ν α β : Type} [Throttle.Arithmetic ν]
    (surroundings : Service.Surroundings) (flow : Flow (Outcome α))
    (next : α → Flow (Outcome β)) (world : World ν)
    (first : Outcome.Unthrottled (flow.run surroundings world).1)
    (second : ∀ (value : α) (later : World ν),
      Outcome.Unthrottled ((next value).run surroundings later).1) :
    Outcome.Unthrottled ((flow.andThen next).run surroundings world).1 := by
  rw [andThen, run_bind]
  generalize flow.run surroundings world = ran at first ⊢
  obtain ⟨fault | value, later⟩ := ran
  · intro failure failed
    cases failed
    exact first failure rfl
  · exact second value later

theorem Captcha.unthrottled_verdict (stored answer : String) (now : Instant) :
    Outcome.Unthrottled (Outcome.ofExcept (verdict stored answer now)) := by
  intro failure failed
  rw [Outcome.ofExcept_eq_failure_iff, verdict] at failed
  rcases (bind_eq_error_iff _ _ _).mp failed with unread | ⟨session, -, judged⟩
  · rw [Cache.ofStored] at unread
    split at unread
    · cases unread
    · cases unread
      rintro ⟨⟩
  · rw [Session.check] at judged
    split at judged
    · cases judged
      decide
    · split at judged
      · cases judged
      · cases judged
        decide

/-! ## Signing up -/

namespace Account

open Service

variable {ν : Type} [Throttle.Arithmetic ν] (surroundings : Surroundings) (settings : Settings)

theorem run_signup_stored (prompt : surroundings.Prompt settings.limit) (input : Signup)
    (world : World ν) (signable : Token.Signable settings.tokens world.wall) :
    let ran := (signup settings input).run surroundings world
    (∃ fault, ran.1 = .error fault ∧ ran.2.stored = world.stored) ∨
      ∃ admission : Admission, ran.1 = .ok admission ∧ admission.user.name = input.name ∧
        admission.user.email = input.email ∧
        world.HandsOut surroundings ran.2 admission.user.id ∧
        world.registry.Gains admission.user ran.2.registry ∧
        ran.2.stored.sessions = world.stored.sessions := by
  intro ran
  have held := Flow.held_run surroundings _ (signup_only settings input) world
  have sessions : ran.2.stored.sessions = world.stored.sessions :=
    funext fun id => congrFun held _
  rcases run_signup_cases surroundings settings input world with
    ⟨fault, failed, still⟩ | ⟨hash, middle, still, runs⟩
  · exact Or.inl ⟨fault, failed, World.stored_eq _ _ still.registry held⟩
  · obtain ⟨later, makes, becomes, gone, sameWall⟩ := run_create surroundings settings prompt
      ⟨input.name, input.email, hash⟩ middle
    rcases middle.registry.create_gains (surroundings.ids middle.issued) middle.wall
      ⟨input.name, input.email, hash⟩ with ⟨-, taken⟩ | ⟨after, created, gains⟩
    · rw [taken] at makes becomes
      have refused : ran = (.error (.failure .emailTaken), later) := by
        refine Eq.trans runs ?_
        rw [enrol, Flow.andThen, Flow.run_bind, makes]
        rfl
      refine Or.inl ⟨_, congrArg Prod.fst refused, World.stored_eq _ _ ?_ held⟩
      rw [refused]
      exact becomes.trans still.registry
    · rw [created] at makes becomes
      generalize is : (⟨surroundings.ids middle.issued, input.name, input.email, hash,
        middle.wall⟩ : User) = user at makes becomes gains
      rw [← sameWall.trans still.wall] at signable
      obtain ⟨pair, signed⟩ := (Token.exists_pair_iff settings.label user.principal settings.tokens
        later.wall).mpr signable
      have admitted : ran = (.ok ⟨user, pair⟩, later) := by
        refine Eq.trans runs ?_
        rw [enrol, Flow.run_andThen surroundings _ _ middle _ _ makes, run_issueFor_eq, signed]
        rfl
      rw [admitted] at sessions ⊢
      refine Or.inr ⟨_, rfl, by rw [← is], by rw [← is], ⟨middle.issued, still.issued.ge, ?_, ?_⟩,
        ?_, sessions⟩
      · rw [gone]
        exact Nat.lt_succ_self _
      · rw [← is]
      · rw [becomes, ← still.registry]
        exact gains

end Account

/-! ## Asking for a challenge -/

namespace Service

variable {ν : Type}

theorem World.sessions_put (before after : World ν) (id : Uuid) (value : Option String)
    (puts : ∀ key, Captcha.held after key =
      if key = Cache.Key.captchaSession id then value else Captcha.held before key) :
    after.stored.sessions = Function.update before.stored.sessions id value := by
  funext other
  show Captcha.held after (Cache.Key.captchaSession other) = _
  rw [puts]
  by_cases own : other = id
  · rw [own, if_pos rfl, Function.update_self]
  · have differs : Cache.Key.captchaSession other ≠ Cache.Key.captchaSession id :=
      fun same => own (Cache.Key.captchaSession_injective other id same)
    rw [if_neg differs, Function.update_of_ne own]
    rfl

theorem World.answers_of_healthy [Throttle.Arithmetic ν] (surroundings : Surroundings)
    (healthy : surroundings.cache = .healthy) (limit : Nat) (world : World ν) :
    world.Answers surroundings limit := by
  rw [Answers, healthy]
  exact ⟨Nat.zero_le _, rfl⟩

end Service

namespace Captcha

open Service

variable {ν : Type} [Throttle.Arithmetic ν] (surroundings : Surroundings)
  (healthy : surroundings.cache = .healthy) (settings : Settings)

include healthy

/-- A healthy cache answers, and does to its values what the deed of the call does to a shelf. -/
theorem run_askCache {α : Type} (request : CacheCall α) (world : World ν) :
    ∃ value later, (askCache settings request).run surroundings world = (.ok value, later) ∧
      world.Still later ∧
      held later =
        (Shelf.after ⟨held world, []⟩ (request.deed (.answered (.ok value)))).held := by
  have answers := world.answers_of_healthy surroundings healthy settings.limit
  obtain ⟨value, later, answered⟩ :=
    World.answer_cache_of_answers surroundings settings.limit world answers request
  have still := world.still_answer surroundings (.cache settings.limit request) rfl
  have holds := held_call surroundings (.cache settings.limit request) world
  rw [answered] at still holds
  exact ⟨value, later, (run_askCache_eq_ok_iff surroundings settings _ _ _ _).mpr answered, still,
    holds⟩

theorem run_generate_stored (world : World ν) :
    let ran := (generate settings).run surroundings world
    (∃ fault, ran.1 = .error fault ∧ ran.2.stored = world.stored) ∨
      ∃ (challenge : Challenge) (session : Session), ran.1 = .ok challenge ∧
        world.HandsOut surroundings ran.2 challenge.session ∧
        ran.2.registry = world.registry ∧
        ran.2.stored.sessions =
          Function.update world.stored.sessions challenge.session (some session.text) := by
  intro ran
  have draws : world.answer surroundings (.draw (drawChallenge settings)) =
      (((drawChallenge settings).run surroundings.words world.drawn).1,
        { world with
          drawn := ((drawChallenge settings).run surroundings.words world.drawn).2 }) := rfl
  have runs : ran = (generateAt settings world.wall).run surroundings world := rfl
  rw [generateAt, Flow.run_ask, draws] at runs
  generalize (drawChallenge settings).run surroundings.words world.drawn = reply at runs
  obtain ⟨⟨problem, drawn⟩, position⟩ := reply
  cases drawn with
  | error failure =>
      rw [runs]
      exact Or.inl ⟨_, rfl, rfl⟩
  | ok canvas =>
      simp only [Flow.run_ask, World.answer, World.freshId] at runs
      cases answered : problem.answer with
      | error crash =>
          rw [answered] at runs
          rw [runs]
          exact Or.inl ⟨_, rfl, rfl⟩
      | ok answer =>
          rw [answered] at runs
          obtain ⟨done, later, stores, still, holds⟩ := run_askCache surroundings healthy settings
            (.set (Cache.Key.captchaSession (surroundings.ids world.issued))
              (Session.text ⟨problem.question, answer, world.wall⟩) lifetimeNanos)
            { world with drawn := position, issued := world.issued + 1 }
          have issues := runs.trans (Flow.run_andThen surroundings _ _ _ _ _ stores)
          rw [issues]
          refine Or.inr ⟨_, ⟨problem.question, answer, world.wall⟩, rfl,
            ⟨world.issued, le_rfl, ?_, rfl⟩, still.registry, ?_⟩
          · exact still.issued ▸ Nat.lt_succ_self _
          · exact World.sessions_put world later _ _ fun key => congrFun holds key

theorem run_verify_stored (session answer : String) (world : World ν) :
    let ran := (verify settings session answer).run surroundings world
    (ran.2.stored.sessions = world.stored.sessions ∨
        ∃ id, Uuid.ofText? (Text.trimmed session) = some id ∧
          ran.2.stored.sessions = Function.update world.stored.sessions id none) ∧
      Outcome.Unthrottled ran.1 := by
  intro ran
  have now : world.answer surroundings .now = (world.wall, world) := rfl
  have runs : ran = (verify settings session answer).run surroundings world := rfl
  rw [verify, Flow.run_ask, now, verifyAt] at runs
  cases named : Uuid.ofText? (Text.trimmed session) with
  | none =>
      rw [named] at runs
      rw [runs]
      exact ⟨Or.inl rfl, Outcome.unthrottled_failure _ (by decide)⟩
  | some id =>
      rw [named] at runs
      obtain ⟨found, later, takes, still, holds⟩ := run_askCache surroundings healthy settings
        (.take (Cache.Key.captchaSession id)) world
      have judges := runs.trans (Flow.run_andThen surroundings _ _ _ _ _ takes)
      have gone := World.sessions_put world later id none fun key => congrFun holds key
      cases found with
      | none =>
          rw [judges]
          exact ⟨Or.inr ⟨id, rfl, gone⟩, Outcome.unthrottled_failure _ (by decide)⟩
      | some stored =>
          rw [judges]
          exact ⟨Or.inr ⟨id, rfl, gone⟩, unthrottled_verdict stored answer world.wall⟩

end Captcha

/-! ## Logging in -/

namespace Account

open Service

variable {ν : Type} [Throttle.Arithmetic ν] (surroundings : Surroundings) (settings : Settings)

theorem run_checkCaptcha_stored (healthy : surroundings.cache = .healthy) (input : Login)
    (world : World ν) :
    let ran := (checkCaptcha settings input).run surroundings world
    (ran.2.stored.sessions = world.stored.sessions ∨
        settings.captchaRequired = true ∧ ∃ captcha id, input.captcha = some captcha ∧
          Uuid.ofText? (Text.trimmed captcha.session) = some id ∧
          ran.2.stored.sessions = Function.update world.stored.sessions id none) ∧
      Outcome.Unthrottled ran.1 := by
  intro ran
  have runs : ran = (checkCaptcha settings input).run surroundings world := rfl
  rw [checkCaptcha] at runs
  split at runs
  · rename_i required
    cases answered : input.captcha with
    | none =>
        rw [answered] at runs
        rw [runs]
        exact ⟨Or.inl rfl, Outcome.unthrottled_failure _ (by decide)⟩
    | some captcha =>
        rw [answered] at runs
        obtain ⟨sessions, unthrottled⟩ := Captcha.run_verify_stored surroundings healthy
          settings.captcha captcha.session captcha.answer world
        rw [← runs] at sessions unthrottled
        refine ⟨?_, unthrottled⟩
        rcases sessions with same | ⟨id, named, gone⟩
        · exact Or.inl same
        · exact Or.inr ⟨required, captcha, id, rfl, named, gone⟩
  · rw [runs]
    exact ⟨Or.inl rfl, Outcome.unthrottled_ok ()⟩

/-- Whatever goes wrong when the hasher compares, it is not that there were too many requests. -/
def Patient (hasher : Hasher) : Prop :=
  ∀ count password hash failure, hasher.compare count password hash = .error failure →
    failure.kind ≠ .tooManyRequests

theorem patient_salted : Patient .salted := by
  intro count password hash failure failed
  have compared : Password.compare password hash = .error failure := failed
  rw [Password.compare] at compared
  split at compared
  · cases compared
    rintro ⟨⟩
  · split at compared
    · split at compared
      · cases compared
      · cases compared
        rintro ⟨⟩
    · cases compared

theorem unthrottled_issueFor (user : User) (world : World ν) :
    Outcome.Unthrottled ((issueFor settings user).run surroundings world).1 :=
  Outcome.unthrottled_bind _ _ (Token.unthrottled_issuePair _ _ _ world.wall) fun _ =>
    Outcome.unthrottled_ok _

theorem unthrottled_checkCredentials (prompt : surroundings.Prompt settings.limit)
    (patient : Patient surroundings.hasher) (input : Login) (world : World ν) :
    Outcome.Unthrottled ((checkCredentials settings input).run surroundings world).1 := by
  refine Flow.unthrottled_andThen surroundings _ _ world ?_ fun found later => ?_
  · rw [Flow.run_askStore surroundings settings.limit prompt]
    exact Outcome.unthrottled_ok _
  · cases found with
    | none =>
        rw [run_rejectUnknown]
        exact Outcome.unthrottled_failure _ (by decide)
    | some user =>
        have compares : (later.answer surroundings (.compare input.password user.passwordHash)).1 =
            surroundings.hasher.compare later.compared input.password user.passwordHash := rfl
        rw [Flow.run_ask, compares]
        cases compared : surroundings.hasher.compare later.compared input.password
            user.passwordHash with
        | error failure =>
            exact Outcome.unthrottled_failure _ (patient _ _ _ _ compared)
        | ok right =>
            cases right with
            | false => exact Outcome.unthrottled_failure _ (by decide)
            | true => exact unthrottled_issueFor surroundings settings user _

/-- A login takes out the session that it names, if it has to answer a challenge, and is never told
that there were too many requests. -/
theorem run_login_stored (healthy : surroundings.cache = .healthy)
    (prompt : surroundings.Prompt settings.limit) (patient : Patient surroundings.hasher)
    (input : Login) (world : World ν) :
    let ran := (login settings input).run surroundings world
    ran.2.registry = world.registry ∧
      (ran.2.stored.sessions = world.stored.sessions ∨
        settings.captchaRequired = true ∧ ∃ captcha id, input.captcha = some captcha ∧
          Uuid.ofText? (Text.trimmed captcha.session) = some id ∧
          ran.2.stored.sessions = Function.update world.stored.sessions id none) ∧
      Outcome.Unthrottled ran.1 := by
  intro ran
  have still := Flow.still_run surroundings _ (quiet_login settings input) world
  obtain ⟨sessions, unthrottled⟩ :=
    run_checkCaptcha_stored surroundings settings healthy input world
  have same : ran.2.stored.sessions =
      ((checkCaptcha settings input).run surroundings world).2.stored.sessions := by
    have runs : ran = ((checkCaptcha settings input).andThen fun _ =>
        checkCredentials settings input).run surroundings world := rfl
    rw [runs, Flow.andThen, Flow.run_bind]
    rcases (checkCaptcha settings input).run surroundings world with ⟨fault | passed, later⟩
    · rfl
    · have held := Flow.held_run surroundings _ (checkCredentials_calm settings input) later
      exact funext fun id => congrFun held _
  rw [same]
  refine ⟨still.registry, sessions, ?_⟩
  exact Flow.unthrottled_andThen surroundings _ _ world unthrottled fun _ later =>
    unthrottled_checkCredentials surroundings settings prompt patient input later

end Account

end Gatehouse

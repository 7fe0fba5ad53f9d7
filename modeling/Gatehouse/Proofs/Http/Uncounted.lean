import Gatehouse.Proofs.Http.Effects
import Gatehouse.Proofs.Throttle.Meter

/-!
# Behind the gate nothing is counted

Behind the gate nobody counts requests, and nobody says that there were too many
of them, unless the user store or the hasher does (`Flow.Uncounted`).  Neither
the one in memory nor the one that salts does that
(`Surroundings.blameless_salted`).
-/

set_option autoImplicit false

namespace Gatehouse

/-! ## Flows that count nothing -/

namespace Service

variable {ν α β : Type}

/-- A reply that may come where nobody out there blames too many requests. -/
def Call.Sensible : {β : Type} → Call β → β → Prop
  | _, .store _ _, reply =>
    ∀ failure, reply = .answered (.error failure) → failure.kind ≠ .tooManyRequests
  | _, .hash _, reply => ∀ failure, reply = .error failure → failure.kind ≠ .tooManyRequests
  | _, .compare _ _, reply => ∀ failure, reply = .error failure → failure.kind ≠ .tooManyRequests
  | _, .draw drawing, reply => ∃ words position, reply = (drawing.run words position).1
  | _, _, _ => True

/-- Neither the user store nor the hasher ever blames too many requests. -/
structure Surroundings.Blameless (surroundings : Surroundings) : Prop where
  store : ∀ count failure, (surroundings.store count).failing = some failure →
    failure.kind ≠ .tooManyRequests
  hash : ∀ count password words position failure,
    ((surroundings.hasher.hash count password).run words position).1 = .error failure →
      failure.kind ≠ .tooManyRequests
  compare : Account.Patient surroundings.hasher

theorem Surroundings.blameless_salted (surroundings : Surroundings)
    (store : surroundings.store = .healthy) (hasher : surroundings.hasher = .salted) :
    surroundings.Blameless where
  store count failure failing := by
    rw [store] at failing
    cases failing
  hash count password words position failure failed := by
    rw [hasher] at failed
    cases failed
  compare := by
    rw [hasher]
    exact Account.patient_salted

theorem World.under_error (turn : Turn) (limit : Nat) (world : World ν)
    (work : World ν → Except Failure α × World ν) (failure : Failure)
    (failed : (world.under turn limit work).1 = .answered (.error failure)) :
    turn.failing = some failure ∨ (work (world.wait turn.delay)).1 = .error failure := by
  rw [under] at failed
  split at failed
  · cases failed
  · cases failing : turn.failing with
    | some reason =>
        rw [failing] at failed
        cases failed
        exact Or.inl rfl
    | none =>
        rw [failing] at failed
        have worked : Reply.answered (work (world.wait turn.delay)).1 =
          .answered (.error failure) := failed
        exact Or.inr (Reply.answered.inj worked)

/-- What a user store may have to say against a call is that an address is taken. -/
theorem World.storeWork_error (surroundings : Surroundings) (request : StoreCall α)
    (world : World ν) (failure : Failure)
    (failed : (storeWork surroundings request world).1 = .error failure) :
    failure = .emailTaken := by
  cases request with
  | findByEmail email => cases failed
  | findById id => cases failed
  | create new =>
      have created : (world.registry.create (surroundings.ids world.issued) world.wall new).1 =
        .error failure := failed
      rcases world.registry.create_gains (surroundings.ids world.issued) world.wall new with
        ⟨-, taken⟩ | ⟨after, joined, -⟩
      · rw [taken] at created
        cases created
        rfl
      · rw [joined] at created
        cases created

theorem World.sensible_answer [Throttle.Arithmetic ν] (surroundings : Surroundings)
    (blameless : surroundings.Blameless) (call : Call β) (world : World ν) :
    call.Sensible (world.answer surroundings call).1 := by
  cases call with
  | store limit request =>
      intro failure failed
      rcases World.under_error _ _ _ _ failure failed with failing | refused
      · exact blameless.store _ _ failing
      · rw [World.storeWork_error surroundings request _ failure refused]
        decide
  | hash password => exact fun failure failed => blameless.hash _ _ _ _ failure failed
  | compare password known => exact fun failure failed => blameless.compare _ _ _ failure failed
  | draw draw => exact ⟨surroundings.words, world.drawn, rfl⟩
  | cache limit request => exact trivial
  | standIn => exact trivial
  | now => exact trivial
  | freshId => exact trivial
  | spend identity => exact trivial

namespace Flow

/-- Whatever sensible replies it gets, the flow counts no request and ends with a fine value. -/
def Uncounted (fine : α → Prop) : Flow α → Prop
  | .done value => fine value
  | .ask call next =>
    call.unmetered = true ∧ ∀ reply, call.Sensible reply → (next reply).Uncounted fine

theorem Uncounted.bind (fine : α → Prop) (good : β → Prop) (flow : Flow α) (next : α → Flow β)
    (first : flow.Uncounted fine) (second : ∀ value, fine value → (next value).Uncounted good) :
    (flow.bind next).Uncounted good := by
  induction flow with
  | done value => exact second value first
  | ask call rest ih =>
      exact ⟨first.1, fun reply sensible => ih reply (first.2 reply sensible)⟩

theorem Uncounted.andThen (flow : Flow (Outcome α)) (next : α → Flow (Outcome β))
    (first : flow.Uncounted Outcome.Unthrottled)
    (second : ∀ value, (next value).Uncounted Outcome.Unthrottled) :
    (flow.andThen next).Uncounted Outcome.Unthrottled := by
  refine first.bind _ _ _ _ fun outcome unthrottled => ?_
  cases outcome with
  | ok value => exact second value
  | error fault =>
      intro failure failed
      cases failed
      exact unthrottled failure rfl

theorem uncounted_stop (failure : Failure) (blameless : failure.kind ≠ .tooManyRequests) :
    (stop failure : Flow (Outcome α)).Uncounted Outcome.Unthrottled :=
  Outcome.unthrottled_failure failure blameless

theorem uncounted_askStore (limit : Nat) (request : StoreCall α) :
    (askStore limit request).Uncounted Outcome.Unthrottled := by
  refine ⟨by cases request <;> rfl, fun reply sensible => ?_⟩
  rcases reply with ⟨failure | value⟩ | _
  · exact uncounted_stop failure (sensible failure rfl)
  · exact Outcome.unthrottled_ok value
  · exact uncounted_stop _ (by decide)

theorem Uncounted.run [Throttle.Arithmetic ν] (surroundings : Surroundings)
    (blameless : surroundings.Blameless) (fine : α → Prop) (flow : Flow α)
    (uncounted : flow.Uncounted fine) (world : World ν) :
    fine (flow.run surroundings world).1 ∧ (flow.run surroundings world).2.meter = world.meter := by
  induction flow generalizing world with
  | done value => exact ⟨uncounted, rfl⟩
  | ask call next ih =>
      have sensible := world.sensible_answer surroundings blameless call
      obtain ⟨ends, kept⟩ := ih _ (uncounted.2 _ sensible) (world.answer surroundings call).2
      exact ⟨ends, kept.trans (world.meter_answer surroundings call uncounted.1)⟩

end Flow

end Service

open Service

/-! ## The services count nothing -/

namespace Token

theorem unthrottled_verify {γ : Type} [Claims γ] (label presented secret : String)
    (now : Instant) : Outcome.Unthrottled (verify label presented secret now : Outcome γ) := by
  refine Outcome.unthrottled_bind _ _ ?_ fun secret => ?_
  · intro failure failed
    exact absurd failed (Secret.ofText_ne_failure secret failure)
  · intro failure failed
    rw [Outcome.ofExcept_eq_failure_iff, decode] at failed
    rcases (bind_eq_error_iff _ _ _).mp failed with refused | ⟨claims, -, late⟩
    · rcases kind_of_authenticate_error _ _ _ refused with kind | kind <;> rw [kind] <;> decide
    · rw [unexpired] at late
      split at late
      · cases late
        decide
      · cases late

end Token

namespace Captcha

theorem uncounted_askCache {α : Type} (settings : Settings) (request : CacheCall α)
    (unmetered : (Call.cache settings.limit request).unmetered = true) :
    (askCache settings request).Uncounted Outcome.Unthrottled := by
  refine ⟨unmetered, fun reply _ => ?_⟩
  rcases reply with ⟨failure | value⟩ | _
  · exact Flow.uncounted_stop _ (by rintro ⟨⟩)
  · exact Outcome.unthrottled_ok value
  · exact Flow.uncounted_stop _ (by decide)

theorem drawChallenge_error (settings : Settings) (words : Words) (position : Nat)
    (failure : Failure)
    (failed : ((drawChallenge settings).run words position).1.2 = .error failure) :
    failure = .captchaImageEmpty := by
  unfold drawChallenge at failed
  rw [Draw.run_bind] at failed
  cases drawn : picture (Problem.generate.run words position).1.question settings.width
      settings.height with
  | error reason =>
      simp only [drawn] at failed
      cases failed
      unfold picture at drawn
      split at drawn <;> cases drawn
      rfl
  | ok draw =>
      simp only [drawn] at failed
      cases failed

theorem uncounted_generate (settings : Settings) :
    (generate settings).Uncounted Outcome.Unthrottled := by
  refine ⟨rfl, fun now _ => ⟨rfl, ?_⟩⟩
  -- a drawing may be told to fail in any way, but only one that was really drawn is sensible
  rintro ⟨problem, drawn⟩ ⟨words, position, same⟩
  cases drawn with
  | error failure =>
      have empty := drawChallenge_error settings words position failure (by rw [← same])
      rw [empty]
      exact Flow.uncounted_stop _ (by decide)
  | ok canvas =>
      refine ⟨rfl, fun id _ => ?_⟩
      cases problem.answer with
      | error crash =>
          intro failure failed
          cases failed
      | ok answer =>
          exact Flow.Uncounted.andThen _ _ (uncounted_askCache settings _ rfl) fun _ =>
            Outcome.unthrottled_ok _

theorem uncounted_verify (settings : Settings) (session answer : String) :
    (verify settings session answer).Uncounted Outcome.Unthrottled := by
  refine ⟨rfl, fun now _ => ?_⟩
  simp only [verifyAt]
  split
  · exact Flow.uncounted_stop _ (by decide)
  · refine Flow.Uncounted.andThen _ _ (uncounted_askCache settings _ rfl) fun found => ?_
    cases found with
    | none => exact Flow.uncounted_stop _ (by decide)
    | some stored => exact unthrottled_verdict stored answer now

end Captcha

namespace Account

variable (settings : Settings)

theorem uncounted_issueFor (user : User) :
    (issueFor settings user).Uncounted Outcome.Unthrottled :=
  ⟨rfl, fun now _ => Outcome.unthrottled_bind _ _ (Token.unthrottled_issuePair _ _ _ now) fun _ =>
    Outcome.unthrottled_ok _⟩

theorem uncounted_signup (input : Signup) :
    (signup settings input).Uncounted Outcome.Unthrottled := by
  refine Flow.Uncounted.andThen _ _ (Flow.uncounted_askStore _ _) fun found => ?_
  cases found with
  | some user => exact Flow.uncounted_stop _ (by decide)
  | none =>
      refine ⟨rfl, fun hashed sensible => ?_⟩
      cases hashed with
      | error failure => exact Flow.uncounted_stop failure (sensible failure rfl)
      | ok hash =>
          exact Flow.Uncounted.andThen _ _ (Flow.uncounted_askStore _ _)
            (uncounted_issueFor settings)

theorem uncounted_checkCredentials (input : Login) :
    (checkCredentials settings input).Uncounted Outcome.Unthrottled := by
  refine Flow.Uncounted.andThen _ _ (Flow.uncounted_askStore _ _) fun found => ?_
  cases found with
  | none =>
      refine ⟨rfl, fun made _ => ?_⟩
      cases made with
      | error failure => exact Flow.uncounted_stop _ (by decide)
      | ok known => exact ⟨rfl, fun compared _ => Flow.uncounted_stop _ (by decide)⟩
  | some user =>
      refine ⟨rfl, fun compared sensible => ?_⟩
      rcases compared with failure | right | wrong
      · exact Flow.uncounted_stop failure (sensible failure rfl)
      · exact Flow.uncounted_stop _ (by decide)
      · exact uncounted_issueFor settings user

theorem uncounted_login (input : Login) :
    (login settings input).Uncounted Outcome.Unthrottled := by
  refine Flow.Uncounted.andThen _ _ ?_ fun _ => uncounted_checkCredentials settings input
  rw [checkCaptcha]
  split
  · split
    · exact Flow.uncounted_stop _ (by decide)
    · exact Captcha.uncounted_verify _ _ _
  · exact Outcome.unthrottled_ok ()

theorem uncounted_refresh (presented : String) :
    (refresh settings presented).Uncounted Outcome.Unthrottled := by
  refine ⟨rfl, fun now _ => ?_⟩
  have verified := Token.unthrottled_verify (γ := RefreshClaims) settings.label presented
    settings.tokens.refreshSecret now
  simp only [refreshAt]
  split
  · rename_i fault refused
    rw [refused] at verified
    intro failure failed
    cases failed
    exact verified failure rfl
  · refine Flow.Uncounted.andThen _ _ (Flow.uncounted_askStore _ _) fun found => ?_
    cases found with
    | none => exact Flow.uncounted_stop _ (by decide)
    | some user => exact Token.unthrottled_issuePair _ _ _ now

end Account

namespace Http

/-! ## The endpoints count nothing -/

/-- The answer does not say that there were too many requests. -/
def Response.Unthrottled (response : Response) : Prop :=
  response.status ≠ 429

theorem Response.unthrottled_failed (failure : Failure)
    (blameless : failure.kind ≠ .tooManyRequests) : (Response.failed failure).Unthrottled :=
  fun status => blameless (status_failed_429 failure status)

section

variable (settings : Config.Settings) (request : Request)

theorem Request.kind_of_form_error (φ : Type) [Form φ] (failure : Failure)
    (refused : request.form φ = .error failure) : failure.kind = .validation := by
  rw [form] at refused
  split at refused
  · cases refused
    rfl
  · split at refused
    · cases refused
      rfl
    · split at refused
      · rename_i error _
        cases refused
        cases error <;> rfl
      · rw [Form.check, bind_eq_error_iff, checkRules] at refused
        rcases refused with broken | ⟨_, -, made⟩
        · split at broken
          · cases broken
          · cases broken
            rfl
        · cases made

theorem uncounted_refused (φ : Type) [Form φ] (failure : Failure)
    (refused : request.form φ = .error failure) :
    (Flow.done (Response.failed failure)).Uncounted Response.Unthrottled := by
  refine Response.unthrottled_failed failure ?_
  rw [request.kind_of_form_error φ failure refused]
  decide

theorem uncounted_answering {α : Type} (render : α → Response)
    (rendered : ∀ value, (render value).Unthrottled) (flow : Flow (Outcome α))
    (uncounted : flow.Uncounted Outcome.Unthrottled) :
    (answering render flow).Uncounted Response.Unthrottled := by
  refine uncounted.bind _ _ _ _ fun outcome unthrottled => ?_
  rcases outcome with (failure | crash) | value
  · exact Response.unthrottled_failed failure (unthrottled failure rfl)
  · rintro ⟨⟩
  · exact rendered value

theorem uncounted_serve (endpoint : Endpoint) :
    endpoint.throttled = true →
      (serve settings request endpoint).Uncounted Response.Unthrottled := by
  intro throttled
  cases endpoint with
  | signup =>
      simp only [serve, signup]
      split
      · rename_i failure refused
        exact uncounted_refused request SignupForm failure refused
      · exact uncounted_answering _ (by rintro _ ⟨⟩) _ (Account.uncounted_signup _ _)
  | login =>
      simp only [serve, login]
      split
      · rename_i failure refused
        exact uncounted_refused request LoginForm failure refused
      · refine ⟨rfl, fun now _ => ?_⟩
        exact (Account.uncounted_login _ _).bind _ _ _ _ fun outcome unthrottled =>
          status_loginAnswer _ outcome unthrottled
  | refresh =>
      simp only [serve, refresh]
      split
      · rename_i failure refused
        exact uncounted_refused request RefreshForm failure refused
      · exact uncounted_answering _ (by rintro _ ⟨⟩) _ (Account.uncounted_refresh _ _)
  | captcha => exact uncounted_answering _ (by rintro _ ⟨⟩) _ (Captcha.uncounted_generate _)
  | me => cases throttled
  | health => cases throttled

end

end Http

end Gatehouse

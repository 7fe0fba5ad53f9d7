import Gatehouse.Proofs.Account.Refinement
import Gatehouse.Proofs.Http.Stored
import Gatehouse.Proofs.Service.Wording

/-!
# The words of the server stay inside

A client is told the kind of a failure of the server and no word of it, and a panic
looks like one.  What is done at an endpoint is in step with itself when store, cache
and hasher fail in other words (`inStep_handled`), so applications over hosts that
fail and panic alike give the same answers (`answerOver_alike`).
-/

set_option autoImplicit false

namespace Gatehouse

open Service

/-! ## The services -/

namespace Captcha

theorem discreet_askCache {α : Type} (settings : Settings) (request : CacheCall α) :
    (askCache settings request).Discreet := by
  refine .ask _ _ _ fun reply other reworded => ?_
  cases reworded with
  | same reply => rcases reply with ⟨failure | value⟩ | _ <;> exact Flow.discreet_done _
  | failed one other reworded => exact .done _ _ (.failure _ _ ⟨rfl, rfl⟩)

theorem discreet_generate (settings : Settings) : (generate settings).Discreet := by
  refine .known _ rfl _ _ fun now => ?_
  refine .known _ rfl _ _ fun ⟨problem, drawn⟩ => ?_
  cases drawn with
  | error failure => exact Flow.discreet_done _
  | ok canvas =>
      refine .known _ rfl _ _ fun id => ?_
      dsimp only
      cases problem.answer with
      | error crash => exact Flow.discreet_done _
      | ok answer =>
          exact (discreet_askCache settings _).andThen _ _ fun _ => Flow.discreet_done _

theorem discreet_verify (settings : Settings) (session answer : String) :
    (verify settings session answer).Discreet := by
  refine .known _ rfl _ _ fun now => ?_
  rw [verifyAt]
  split
  · exact Flow.discreet_done _
  · refine (discreet_askCache settings _).andThen _ _ fun taken => ?_
    cases taken with
    | none => exact Flow.discreet_done _
    | some stored => exact Flow.discreet_done _

end Captcha

namespace Account

variable (settings : Settings)

theorem discreet_issueFor (user : User) : (issueFor settings user).Discreet := by
  refine .known _ rfl _ _ fun now => ?_
  exact Flow.discreet_done _

theorem discreet_signup (input : Signup) : (signup settings input).Discreet := by
  refine (Flow.discreet_askStore _ _).andThen _ _ fun found => ?_
  cases found with
  | some user => exact Flow.discreet_done _
  | none =>
      refine .ask _ _ _ fun hashed other reworded => ?_
      cases reworded with
      | failed one other reworded => exact .done _ _ (.failure _ _ (reworded.toldAlike _ _))
      | same hashed =>
          cases hashed with
          | error failure => exact Flow.discreet_done _
          | ok hash =>
              exact (Flow.discreet_askStore _ _).andThen _ _ fun user =>
                discreet_issueFor settings user

/-- A hasher that fails on an unknown address is not noticed at all. -/
theorem discreet_rejectUnknown (password : String) : (rejectUnknown password).Discreet := by
  refine .ask _ _ _ fun made other reworded => ?_
  cases reworded with
  | failed one other reworded => exact Flow.discreet_done _
  | same made =>
      cases made with
      | error failure => exact Flow.discreet_done _
      | ok hash => exact .ask _ _ _ fun _ _ _ => Flow.discreet_done _

theorem discreet_checkCredentials (input : Login) :
    (checkCredentials settings input).Discreet := by
  refine (Flow.discreet_askStore _ _).andThen _ _ fun found => ?_
  cases found with
  | none => exact discreet_rejectUnknown input.password
  | some user =>
      refine .ask _ _ _ fun compared other reworded => ?_
      cases reworded with
      | failed one other reworded => exact .done _ _ (.failure _ _ (reworded.toldAlike _ _))
      | same compared =>
          rcases compared with failure | wrong | right
          · exact Flow.discreet_done _
          · exact Flow.discreet_done _
          · exact discreet_issueFor settings user

theorem discreet_login (input : Login) : (login settings input).Discreet := by
  refine Flow.Discreet.andThen _ ?_ _ fun passed => discreet_checkCredentials settings input
  rw [checkCaptcha]
  split
  · cases input.captcha with
    | none => exact Flow.discreet_done _
    | some captcha => exact Captcha.discreet_verify _ _ _
  · exact Flow.discreet_done _

theorem discreet_refresh (presented : String) : (refresh settings presented).Discreet := by
  refine .known _ rfl _ _ fun now => ?_
  rw [refreshAt]
  split
  · exact Flow.discreet_done _
  · refine (Flow.discreet_askStore _ _).andThen _ _ fun found => ?_
    cases found with
    | none => exact Flow.discreet_done _
    | some user => exact Flow.discreet_done _

end Account

namespace Http

/-! ## Answers -/

theorem failed_eq (one other : Failure) (told : one.ToldAlike other) :
    Response.failed other = Response.failed one := by
  rw [Response.failed, Response.failed, Failure.body, Failure.body, told.kind, told.message]

theorem ofOutcome_eq {α : Type} (render : α → Response) (one other : Outcome α)
    (told : one.ToldAlike other) :
    Response.ofOutcome render one = Response.ofOutcome render other := by
  cases told with
  | ok value => rfl
  | failure one other told => exact (failed_eq one other told).symm
  | crash crash => rfl

theorem loginAnswer_eq (dropping : List Header) (one other : Outcome Account.Admission)
    (told : one.ToldAlike other) : loginAnswer dropping one = loginAnswer dropping other := by
  cases told with
  | ok value => rfl
  | failure one other told => rw [loginAnswer, loginAnswer, failed_eq one other told]
  | crash crash => rfl

section

variable (settings : Config.Settings) (request : Request)

theorem inStep_answering {α : Type} (render : α → Response) (flow : Flow (Outcome α))
    (discreet : flow.Discreet) :
    Flow.InStep Eq (answering render flow) (answering render flow) :=
  Flow.InStep.bind _ _ discreet _ _ fun one other told =>
    .done _ _ (ofOutcome_eq render one other told)

theorem discreet_caller : (caller settings request).Discreet := by
  refine .known _ rfl _ _ fun now => ?_
  dsimp only
  split
  · exact Flow.discreet_done _
  · refine (Flow.discreet_askStore _ _).andThen _ _ fun found => ?_
    cases found with
    | none => exact Flow.discreet_done _
    | some user => exact Flow.discreet_done _

theorem inStep_serve (endpoint : Endpoint) :
    Flow.InStep Eq (serve settings request endpoint) (serve settings request endpoint) := by
  cases endpoint with
  | signup =>
      rw [serve, signup]
      split
      · exact .done _ _ rfl
      · exact inStep_answering _ _ (Account.discreet_signup _ _)
  | login =>
      rw [serve, login]
      split
      · exact .done _ _ rfl
      · refine .known _ rfl _ _ fun now => ?_
        exact Flow.InStep.bind _ _ (Account.discreet_login _ _) _ _ fun one other told =>
          .done _ _ (loginAnswer_eq _ one other told)
  | refresh =>
      rw [serve, refresh]
      split
      · exact .done _ _ rfl
      · exact inStep_answering _ _ (Account.discreet_refresh _ _)
  | captcha => exact inStep_answering _ _ (Captcha.discreet_generate _)
  | me => exact inStep_answering _ _ (discreet_caller settings request)
  | health =>
      refine .ask _ _ _ fun reply other reworded => ?_
      cases reworded with
      | same reply => exact .done _ _ rfl
      | failed one other reworded => exact .done _ _ rfl

/-- The gate lets pass whoever a failing cache cannot count. -/
theorem inStep_passes (endpoint : Endpoint) :
    Flow.InStep Eq (passes settings request endpoint) (passes settings request endpoint) := by
  rw [passes]
  split
  · cases settings.rateLimit.backend with
    | memory =>
        refine .known _ rfl _ _ fun allowed => ?_
        exact .done _ _ rfl
    | shared =>
        refine .ask _ _ _ fun reply other reworded => ?_
        cases reworded with
        | same reply => rcases reply with ⟨failure | value⟩ | _ <;> exact .done _ _ rfl
        | failed one other reworded => exact .done _ _ rfl
  · exact .done _ _ rfl

theorem inStep_behindGate (endpoint : Endpoint) (passed : Bool) :
    Flow.InStep Eq (behindGate settings request endpoint passed)
      (behindGate settings request endpoint passed) := by
  rw [behindGate]
  split
  · split
    · exact inStep_serve settings request endpoint
    · exact .done _ _ rfl
  · exact .done _ _ rfl

/-- What is done at an endpoint, from the gate on. -/
def handled (endpoint : Endpoint) : Flow Response :=
  (passes settings request endpoint).bind (behindGate settings request endpoint)

theorem inStep_handled (endpoint : Endpoint) :
    Flow.InStep Eq (handled settings request endpoint) (handled settings request endpoint) := by
  refine Flow.InStep.bind _ _ (inStep_passes settings request endpoint) _ _ ?_
  rintro passed _ rfl
  exact inStep_behindGate settings request endpoint passed

end

/-! ## The application over hosts that panic -/

/-- The answer of an endpoint, and to a panic at it that of a failure of the server. -/
def recovered : Except Payload Response → Response
  | .ok response => response
  | .error payload => .failed payload.asFailure

theorem recovered_eq (one other : Except Payload Response) (ended : Flow.Ended Eq one other) :
    recovered other = recovered one := by
  cases ended with
  | ok one other same => exact same.symm
  | panicked one other => exact failed_eq _ _ (one.toldAlike other)

/-- What the way back from an endpoint makes of an answer. -/
def dressed (request : Request) (endpoint : Endpoint) (response : Response) : Response :=
  let response := if endpoint.serves request.method then response
    else response.withHeaders [endpoint.allow]
  if request.method = .head then response.withoutBody else response

section

variable {σ τ : Type} (settings : Config.Settings)

def answerAtPath (host : Frail σ) (request : Request) (state : σ) : Response × σ :=
  let endpoint := Endpoint.ofPath? request.path
  let cors := settings.server.cors
  if request.method = .options then
    ((cors.preflight request).withHeaders (endpoint.toList.map Endpoint.allow), state)
  else
    let answered : Response × σ := endpoint.elim (.bare 404, state) fun endpoint =>
      let ended := (handled settings request endpoint).attempt host state
      (dressed request endpoint (recovered ended.1), ended.2)
    (answered.1.withHeaders (cors.headers request), answered.2)

/-- Answers a request.  Panics are recovered from right behind the path, so that every answer
carries the headers for other origins and the trace identifier. -/
def answerOver (host : Frail σ) (request : Request) (state : σ) : Response × σ :=
  let trace := (traceOf request).runWith host.toHost state
  let answered := answerAtPath settings host request trace.2
  (answered.1.withHeaders [trace.1], answered.2)

def answerAll (host : Frail σ) : List Request → σ → List Response × σ
  | [], state => ([], state)
  | request :: requests, state =>
    let answered := answerOver settings host request state
    let later := answerAll host requests answered.2
    (answered.1 :: later.1, later.2)

/-- With nobody who panics, requests are answered as `respond` says. -/
theorem answerOver_steady (host : Host σ) (request : Request) (state : σ) :
    answerOver settings host.steady request state =
      (respond settings request).runWith host state := by
  have path (state : σ) : answerAtPath settings host.steady request state =
      (atPath settings request).runWith host state := by
    rw [answerAtPath, atPath]
    split
    · rfl
    · rw [Flow.runWith_bind]
      cases Endpoint.ofPath? request.path with
      | none => rfl
      | some endpoint =>
          simp only [Option.elim_some, atEndpoint_eq, Flow.attempt_steady, handled,
            Flow.runWith_bind]
          rfl
  rw [answerOver, respond, Flow.runWith_bind, Flow.runWith_bind, path]
  rfl

variable (host : Frail σ) (other : Frail τ) (alike : σ → τ → Prop)
  (fails : host.FailsLike other alike)

include fails

theorem answerAtPath_alike (request : Request) (state : σ) (copy : τ) (begun : alike state copy) :
    (answerAtPath settings other request copy).1 = (answerAtPath settings host request state).1 ∧
      alike (answerAtPath settings host request state).2
        (answerAtPath settings other request copy).2 := by
  rw [answerAtPath, answerAtPath]
  split
  · exact ⟨rfl, begun⟩
  · cases Endpoint.ofPath? request.path with
    | none => exact ⟨rfl, begun⟩
    | some endpoint =>
        obtain ⟨ended, after⟩ := (inStep_handled settings request endpoint).attempt host other alike
          fails _ _ state copy begun
        simp only [Option.elim_some, recovered_eq _ _ ended]
        exact ⟨trivial, after⟩

theorem traceOf_alike (request : Request) (state : σ) (copy : τ) (begun : alike state copy) :
    ((traceOf request).runWith other.toHost copy).1 =
        ((traceOf request).runWith host.toHost state).1 ∧
      alike ((traceOf request).runWith host.toHost state).2
        ((traceOf request).runWith other.toHost copy).2 := by
  rw [traceOf]
  split
  · exact ⟨rfl, begun⟩
  · have same : (host.answer .freshId state).1 = (other.answer .freshId copy).1 :=
      fails.replies _ _ _ begun (host.names state)
    simp only [Flow.runWith, same, true_and]
    exact fails.after .freshId state copy begun

theorem answerOver_alike (request : Request) (state : σ) (copy : τ) (begun : alike state copy) :
    (answerOver settings other request copy).1 = (answerOver settings host request state).1 ∧
      alike (answerOver settings host request state).2
        (answerOver settings other request copy).2 := by
  obtain ⟨trace, middle⟩ := traceOf_alike host other alike fails request state copy begun
  obtain ⟨answer, after⟩ := answerAtPath_alike settings host other alike fails request _ _ middle
  refine ⟨?_, after⟩
  rw [answerOver, answerOver, trace, answer]

/-- Two applications whose parts fail at the same calls, with failures of the server of the same
kinds in whatever words, and panic at the same calls, with whatever they panic: through any sequence
of requests every request gets the same answer from both, with the same status, headers and body. -/
theorem words_stay_inside (requests : List Request) (state : σ) (copy : τ)
    (begun : alike state copy) :
    (answerAll settings other requests copy).1 = (answerAll settings host requests state).1 ∧
      alike (answerAll settings host requests state).2
        (answerAll settings other requests copy).2 := by
  induction requests generalizing state copy with
  | nil => exact ⟨rfl, begun⟩
  | cons request requests ih =>
      obtain ⟨answer, middle⟩ :=
        answerOver_alike settings host other alike fails request state copy begun
      obtain ⟨answers, after⟩ := ih _ _ middle
      refine ⟨?_, after⟩
      rw [answerAll, answerAll, answer, answers]

end

/-- A world in surroundings whose hasher panics instead of hashing. -/
def startled (surroundings : Surroundings) (payload : Payload) : Frail (World ℚ) where
  toHost := World.host surroundings
  panics? := fun {β} (call : Call β) _ =>
    match call with
    | .hash _ => some payload
    | _ => none
  names _ := rfl

/-- Two applications whose store fails once, whose caches always fail and whose hashers panic, one
with a password in what it says.  A signup fails by the store, the next one panics, and the cache
is said to be out of reach; nobody is told more. -/
theorem words_stay_inside_password :
    let settings : Config.Settings := { rateLimit := { backend := .shared } }
    let once (failure : Failure) : Condition := fun count =>
      ⟨0, if count = 0 then some failure else none⟩
    let one : Surroundings := { Account.trial with
      store := once (.inputOutput "disk full")
      cache := .steady 0 (some (.redisLate "INCR")) }
    let other : Surroundings := { Account.trial with
      store := once (.reported .internal "password is hunter2" (some "access denied"))
      cache := .steady 0 (some (.redisFailed "INCR" "password is hunter2")) }
    let world : World ℚ := .start .epoch 10 (.empty 60 0)
    let joining : Request := ⟨.post, "/api/auth/signup",
      [.text "content-type" "application/json"], none,
      Text.bytes "\x7b\"name\":\"ada\",\"email\":\"ada@example.com\",\"password\":\"lovelace\"\x7d"⟩
    let looking : Request := ⟨.get, "/api/health", [], none, []⟩
    let requests := [joining, joining, looking]
    let first := answerAll settings (startled one (.owned "password is hunter2")) requests world
    let second := answerAll settings (startled other .wordless) requests world
    one.Reworded other ∧ one.store 0 ≠ other.store 0 ∧
      first.1.map Response.status = [500, 500, 200] ∧ second.1 = first.1 := by
  intro settings once one other world joining looking requests first second
  have reworded : one.Reworded other :=
    { store := fun count => by
        refine ⟨rfl, ?_⟩
        by_cases begin : count = 0
        · subst begin
          exact .some (Or.inr ⟨rfl, rfl⟩)
        · simp only [one, other, once, if_neg begin]
          exact .none
      cache := fun count => ⟨rfl, Option.Rel.some (Or.inr ⟨rfl, rfl⟩)⟩
      health := rfl
      hash := fun _ _ _ _ => ⟨.same _, rfl⟩
      compare := fun _ _ _ => .same _
      words := rfl
      ids := rfl }
  have fails :
      (startled one (.owned "password is hunter2")).FailsLike (startled other .wordless) Eq :=
    World.failsLike_of_reworded one other reworded _ _ rfl rfl fun call world => by
      cases call <;> exact Iff.rfl
  exact ⟨reworded, by decide, by decide +kernel,
    (words_stay_inside settings _ _ Eq fails requests world world rfl).1⟩

end Http

end Gatehouse

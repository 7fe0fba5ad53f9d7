import Gatehouse.Proofs.Http.Arrivals
import Gatehouse.Proofs.Http.Callers
import Gatehouse.Proofs.Http.Uncounted

/-!
# Who is told that there were too many requests

Behind the gate nothing is counted and nobody is told that there were too many
requests.  So whether a request is answered with 429 is the decision of the gate,
and the gate leaves the meter as it found it for whatever the endpoint does.
Where forwarding is not trusted, the decisions of a whole history are a function
of the meter at its start and of when each request came in from which peer
(`refusals`).
-/

set_option autoImplicit false

namespace Gatehouse.Http

open Service

/-! ## One request -/

/-- The request goes to an endpoint that is throttled, with the endpoint's own method. -/
def Request.Throttled (request : Request) : Prop :=
  ∃ endpoint : Endpoint, endpoint.throttled = true ∧ request.path = endpoint.path ∧
    request.method = endpoint.method

variable {ν : Type} [Throttle.Arithmetic ν] (settings : Config.Settings)
  (surroundings : Surroundings)

/-- What the gate makes of a request that comes in at an instant from a peer, where forwarding is
not trusted. -/
def judgePeer (peer : Option Address) (clock : Nat) (meter : Meter ν) : Bool × Meter ν :=
  Throttle.judge settings.rateLimit.backend settings.rateLimit.requestsPerMinute
    (identity false [] peer) clock meter

theorem sender_of_untrusted (untrusting : settings.server.trustForwardedFor = false)
    (request : Request) : sender settings request = identity false [] request.peer := by
  rw [sender, untrusting]
  rfl

theorem run_behindGate (blameless : surroundings.Blameless) (request : Request)
    (endpoint : Endpoint) (throttled : endpoint.throttled = true) (passed : Bool)
    (world : World ν) :
    let ran := (behindGate settings request endpoint passed).run surroundings world
    (ran.1.status = 429 ↔ passed = false) ∧ ran.2.meter = world.meter := by
  cases passed with
  | false => exact ⟨iff_of_true rfl rfl, rfl⟩
  | true =>
      have quiet : (behindGate settings request endpoint true).Uncounted Response.Unthrottled := by
        rw [behindGate, if_pos rfl]
        split
        · exact uncounted_serve settings request endpoint throttled
        · rintro ⟨⟩
      obtain ⟨ends, kept⟩ := quiet.run surroundings blameless _ _ world
      exact ⟨iff_of_false ends Bool.true_eq_false_eq_False, kept⟩

theorem run_traceOf (request : Request) (world : World ν) :
    let traced := ((traceOf request).run surroundings world).2
    traced.clock = world.clock ∧ traced.meter = world.meter := by
  rw [traceOf]
  split
  · exact ⟨rfl, rfl⟩
  · exact ⟨rfl, rfl⟩

theorem run_atPath (enabled : settings.rateLimit.enabled = true) (request : Request)
    (endpoint : Endpoint) (throttled : endpoint.throttled = true)
    (here : request.path = endpoint.path) (own : request.method = endpoint.method)
    (world : World ν) :
    let ran := (atPath settings request).run surroundings world
    let counted := (Throttle.pass settings.rateLimit.backend settings.rateLimit.requestsPerMinute
      settings.server.contextTimeoutMs (sender settings request)).run surroundings world
    let behind := (behindGate settings request endpoint counted.1).run surroundings counted.2
    ran.1.status = behind.1.status ∧ ran.2 = behind.2 := by
  have limited : passes settings request endpoint =
      Throttle.pass settings.rateLimit.backend settings.rateLimit.requestsPerMinute
        settings.server.contextTimeoutMs (sender settings request) := by
    rw [passes, enabled, throttled]
    rfl
  rw [run_atPath_own settings request surroundings endpoint here own world, limited]
  exact ⟨rfl, rfl⟩

/-- A request to a throttled endpoint is answered with 429 exactly if the gate refuses it, and
leaves the meter as the gate leaves it. -/
theorem run_respond_throttled (healthy : surroundings.cache = .healthy)
    (blameless : surroundings.Blameless) (enabled : settings.rateLimit.enabled = true)
    (untrusting : settings.server.trustForwardedFor = false) (request : Request)
    (throttled : request.Throttled) (world : World ν) :
    let ran := (respond settings request).run surroundings world
    let judged := judgePeer settings request.peer world.clock world.meter
    (ran.1.status = 429 ↔ judged.1 = false) ∧ ran.2.meter = judged.2 := by
  obtain ⟨endpoint, limited, here, own⟩ := throttled
  intro ran judged
  obtain ⟨clock, meter⟩ := run_traceOf surroundings request world
  have runs : ran = (((atPath settings request).run surroundings
      ((traceOf request).run surroundings world).2).1.withHeaders
        [((traceOf request).run surroundings world).1],
      ((atPath settings request).run surroundings
        ((traceOf request).run surroundings world).2).2) := by
    simp only [ran, respond, Flow.run_bind, Flow.run_done]
  generalize ((traceOf request).run surroundings world).2 = traced at clock meter runs
  obtain ⟨status, later⟩ :=
    run_atPath settings surroundings enabled request endpoint limited here own traced
  have counted := Throttle.run_pass surroundings healthy settings.rateLimit.backend
    settings.rateLimit.requestsPerMinute settings.server.contextTimeoutMs (sender settings request)
    traced
  -- the request is gone from what the gate has decided, but for its peer
  rw [sender_of_untrusted settings untrusting, clock, meter] at counted
  rw [sender_of_untrusted settings untrusting] at status later
  obtain ⟨decided, left⟩ := Prod.mk.inj counted
  have behind := run_behindGate (ν := ν) settings surroundings blameless request endpoint limited
  rw [runs]
  constructor
  · rw [Response.status_withHeaders, status, (behind _ _).1, decided]
    rfl
  · rw [later, (behind _ _).2]
    exact left

/-! ## A whole history -/

/-- When a request comes in from which peer, or when the idle buckets are swept. -/
inductive Footprint
  | comes (clock : Nat) (peer : Option Address)
  | tick (clock : Nat)

def Arrival.footprint : Arrival → Footprint
  | .comes moment request => .comes moment.clock request.peer
  | .tick clock => .tick clock

/-- If a request comes in, it goes to a throttled endpoint. -/
def Arrival.Throttled : Arrival → Prop
  | .comes _ request => request.Throttled
  | .tick _ => True

/-- Whether each request in a history is refused, by footprints alone. -/
def refusals : List Footprint → Meter ν → List Bool
  | [], _ => []
  | .tick clock :: footprints, meter =>
    refusals footprints { meter with buckets := (meter.buckets.sweep clock).2 }
  | .comes clock peer :: footprints, meter =>
    let judged := judgePeer settings peer clock meter
    (!judged.1) :: refusals footprints judged.2

theorem refused_eq_refusals (healthy : surroundings.cache = .healthy)
    (blameless : surroundings.Blameless) (enabled : settings.rateLimit.enabled = true)
    (untrusting : settings.server.trustForwardedFor = false) (arrivals : List Arrival)
    (throttled : ∀ arrival ∈ arrivals, arrival.Throttled) (world : World ν) :
    (respondAll settings surroundings arrivals world).1.map
        (fun response => decide (response.status = 429)) =
      refusals settings (arrivals.map Arrival.footprint) world.meter := by
  induction arrivals generalizing world with
  | nil => rfl
  | cons arrival arrivals ih =>
      obtain ⟨first, rest⟩ := List.forall_mem_cons.mp throttled
      cases arrival with
      | tick clock => exact ih rest (world.swept clock)
      | comes moment request =>
          obtain ⟨refused, left⟩ := run_respond_throttled settings surroundings healthy blameless
            enabled untrusting request first (world.atMoment moment)
          have later := ih rest ((respond settings request).run surroundings
            (world.atMoment moment)).2
          rw [left] at later
          have decided : decide (((respond settings request).run surroundings
              (world.atMoment moment)).1.status = 429) =
                !(judgePeer settings request.peer moment.clock world.meter).1 := by
            rw [Bool.eq_iff_iff, decide_eq_true_eq, Bool.not_eq_true']
            exact refused
          exact congrArg₂ List.cons decided later

/-- Two histories of requests to throttled endpoints, with the same peers at the same instants.  The
requests may differ in everything else, and so may users, hashers and whatever else the two services
do not count by.  The same requests are refused. -/
theorem throttling_ignores_content (one other : Surroundings) (healthy : one.cache = .healthy)
    (also : other.cache = .healthy) (blameless : one.Blameless) (neither : other.Blameless)
    (enabled : settings.rateLimit.enabled = true)
    (untrusting : settings.server.trustForwardedFor = false) (arrivals others : List Arrival)
    (throttled : ∀ arrival ∈ arrivals, arrival.Throttled)
    (limited : ∀ arrival ∈ others, arrival.Throttled)
    (same : others.map Arrival.footprint = arrivals.map Arrival.footprint) (world twin : World ν)
    (meter : twin.meter = world.meter) :
    (respondAll settings other others twin).1.map
        (fun response => decide (response.status = 429)) =
      (respondAll settings one arrivals world).1.map
        (fun response => decide (response.status = 429)) := by
  rw [refused_eq_refusals settings other also neither enabled untrusting others limited twin,
    refused_eq_refusals settings one healthy blameless enabled untrusting arrivals throttled world,
    same, meter]

/-- One request a minute is let through.  Whether somebody signs up twice without a body, or tries
to log in and to renew a token with one forwarding header after the other, the second request is
refused, and the third too, ten seconds later. -/
theorem throttling_ignores_content_forwarded :
    let settings : Config.Settings := { rateLimit := { requestsPerMinute := 1 } }
    let surroundings : Surroundings := { Account.trial with hasher := .salted }
    let world : World ℚ := .start .epoch 10 (.empty 1 0)
    let peer : Option Address := some (.v4 [10, 0, 0, 7])
    let late : Moment := ⟨10000000000, .epoch, 10000000000⟩
    let signup : Request := ⟨.post, "/api/auth/signup", [], peer, []⟩
    let login : Request := ⟨.post, "/api/auth/login", [.text "x-forwarded-for" "203.0.113.7"], peer,
      Text.bytes "login"⟩
    let refresh : Request := ⟨.post, "/api/auth/refresh?token",
      [.text "x-forwarded-for" "198.51.100.9", ⟨"x-forwarded-for", [255]⟩,
        .text "cookie" "captcha_session=7"], peer, []⟩
    let arrivals : List Arrival :=
      [.comes ⟨0, .epoch, 0⟩ signup, .comes ⟨0, .epoch, 0⟩ signup, .comes late signup]
    let others : List Arrival :=
      [.comes ⟨0, .epoch, 0⟩ login, .comes ⟨0, .epoch, 0⟩ refresh, .comes late login]
    settings.server.trustForwardedFor = false ∧
      (respondAll settings surroundings others world).1.map
        (fun response => decide (response.status = 429)) = [false, true, true] ∧
      (respondAll settings surroundings arrivals world).1.map
        (fun response => decide (response.status = 429)) = [false, true, true] := by
  intro settings surroundings world peer late signup login refresh arrivals others
  have blameless := surroundings.blameless_salted rfl rfl
  have throttled : ∀ arrival ∈ arrivals, arrival.Throttled := by
    have goes : signup.Throttled := ⟨.signup, rfl, by decide, rfl⟩
    simp [arrivals, Arrival.Throttled, goes]
  have limited : ∀ arrival ∈ others, arrival.Throttled := by
    have enters : login.Throttled := ⟨.login, rfl, by decide, rfl⟩
    have renews : refresh.Throttled := ⟨.refresh, rfl, by decide, rfl⟩
    simp [others, Arrival.Throttled, enters, renews]
  have ignores := throttling_ignores_content settings surroundings surroundings rfl rfl blameless
    blameless rfl rfl arrivals others throttled limited rfl world world rfl
  have refused : (respondAll settings surroundings arrivals world).1.map
      (fun response => decide (response.status = 429)) = [false, true, true] := by
    decide +kernel
  exact ⟨rfl, ignores.trans refused, refused⟩

end Gatehouse.Http

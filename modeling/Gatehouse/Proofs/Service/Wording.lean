import Gatehouse.Http.Status
import Gatehouse.Proofs.Service.Calls

/-!
# Failures in other words

Two hosts that fail and panic at the same calls, with failures of the server that
are of one kind each, but differ in their words and causes.  Two flows are in step
if they make the same calls, whatever they are told in whatever words, and end
with related values.  Flows that are in step end alike at two such hosts
(`InStep.attempt`), or both are given up there.
-/

set_option autoImplicit false

namespace Gatehouse

/-! ## Failures and what is told of them -/

/-- Two failures of the server of one kind, whatever their words and causes. -/
structure Failure.Reworded (one other : Failure) : Prop where
  kind : other.kind = one.kind
  server : one.kind.status = 500

/-- The outside is told the same of both failures. -/
structure Failure.ToldAlike (one other : Failure) : Prop where
  kind : other.kind = one.kind
  message : other.publicMessage = one.publicMessage

theorem Failure.ToldAlike.refl (failure : Failure) : failure.ToldAlike failure :=
  ⟨rfl, rfl⟩

theorem Failure.Reworded.toldAlike (one other : Failure) (reworded : one.Reworded other) :
    one.ToldAlike other := by
  refine ⟨reworded.kind, ?_⟩
  rw [publicMessage, publicMessage, reworded.kind, if_pos reworded.server, if_pos reworded.server]

/-- The same result, or the same failure in other words. -/
inductive Reworded {α : Type} : Except Failure α → Except Failure α → Prop
  | same (result : Except Failure α) : Reworded result result
  | failed (one other : Failure) (reworded : one.Reworded other) :
      Reworded (.error one) (.error other)

/-- The same value, the same crash, or failures of which the same is told. -/
inductive Outcome.ToldAlike {α : Type} : Outcome α → Outcome α → Prop
  | ok (value : α) : ToldAlike (.ok value) (.ok value)
  | failure (one other : Failure) (told : one.ToldAlike other) :
      ToldAlike (.error (.failure one)) (.error (.failure other))
  | crash (crash : Crash) : ToldAlike (.error (.crash crash)) (.error (.crash crash))

variable {α β : Type}

theorem Outcome.ToldAlike.refl (outcome : Outcome α) : outcome.ToldAlike outcome := by
  rcases outcome with (failure | crash) | value
  · exact .failure failure failure (.refl failure)
  · exact .crash crash
  · exact .ok value

theorem Reworded.toldAlike (one other : Except Failure α) (reworded : Reworded one other) :
    (Outcome.ofExcept one).ToldAlike (Outcome.ofExcept other) := by
  cases reworded with
  | same result => exact .refl _
  | failed one other reworded => exact .failure one other (reworded.toldAlike _ _)

namespace Service

/-! ## Calls and hosts -/

/-- The same reply, or the same failure in other words. -/
inductive Reply.Reworded : Reply α → Reply α → Prop
  | same (reply : Reply α) : Reply.Reworded reply reply
  | failed (one other : Failure) (reworded : one.Reworded other) :
      Reply.Reworded (.answered (.error one)) (.answered (.error other))

/-- The same reply to a call, or the same failure in other words. -/
def Call.Reworded : {β : Type} → Call β → β → β → Prop
  | _, .store _ _ => Reply.Reworded
  | _, .cache _ _ => Reply.Reworded
  | _, .hash _ => Gatehouse.Reworded
  | _, .compare _ _ => Gatehouse.Reworded
  | _, .standIn => Gatehouse.Reworded
  | _, _ => Eq

/-- What a panic carries: a text, which may be owned or not, or something that is no text. -/
inductive Payload
  | owned (text : String)
  | borrowed (text : String)
  | wordless
  deriving DecidableEq, Repr

def Payload.detail : Payload → String
  | .owned text | .borrowed text => text
  | .wordless => "non-string panic payload"

/-- What a panic is reported as. -/
def Payload.asFailure (payload : Payload) : Failure :=
  .reported .internal ("Handler panicked: " ++ payload.detail) none

/-- A crash of the library is reported like a panic that says the same. -/
theorem Payload.asFailure_crash (crash : Crash) :
    (Payload.owned crash.message).asFailure = crash.asFailure := rfl

theorem Payload.toldAlike (one other : Payload) : one.asFailure.ToldAlike other.asFailure :=
  ⟨rfl, rfl⟩

/-- A host that may panic instead of answering, but for drawing an identifier. -/
structure Frail (σ : Type) extends Host σ where
  panics? : {β : Type} → Call β → σ → Option Payload
  names : ∀ state, panics? .freshId state = none

/-- A host that never panics. -/
def Host.steady {σ : Type} (host : Host σ) : Frail σ where
  toHost := host
  panics? _ _ := none
  names _ := rfl

variable {σ τ : Type}

/-- Runs a flow until it ends or a call panics. -/
def Flow.attempt (host : Frail σ) : Flow α → σ → Except Payload α × σ
  | .done value, state => (.ok value, state)
  | .ask call next, state =>
    match host.panics? call state with
    | some payload => (.error payload, (host.answer call state).2)
    | none => (next (host.answer call state).1).attempt host (host.answer call state).2

theorem Flow.attempt_steady (host : Host σ) (flow : Flow α) (state : σ) :
    flow.attempt host.steady state =
      (.ok (flow.runWith host state).1, (flow.runWith host state).2) := by
  induction flow generalizing state with
  | done value => rfl
  | ask call next ih => exact ih _ _

/-- In states that are alike both hosts panic at a call or neither does, both give the same reply or
the same failure in other words, and what comes of it is alike again. -/
structure Frail.FailsLike (host : Frail σ) (other : Frail τ) (alike : σ → τ → Prop) : Prop where
  panics : ∀ {β : Type} (call : Call β) (state : σ) (copy : τ), alike state copy →
    ((host.panics? call state).isSome ↔ (other.panics? call copy).isSome)
  replies : ∀ {β : Type} (call : Call β) (state : σ) (copy : τ), alike state copy →
    host.panics? call state = none →
      call.Reworded (host.answer call state).1 (other.answer call copy).1
  after : ∀ {β : Type} (call : Call β) (state : σ) (copy : τ), alike state copy →
    alike (host.answer call state).2 (other.answer call copy).2

/-! ## Flows in step -/

namespace Flow

/-- The flows make the same calls, as long as the replies differ in words only, and end with related
values. -/
inductive InStep (related : α → α → Prop) : Flow α → Flow α → Prop
  | done (one other : α) (values : related one other) : InStep related (.done one) (.done other)
  | ask {β : Type} (call : Call β) (next following : β → Flow α)
      (rest : ∀ reply other, call.Reworded reply other →
        InStep related (next reply) (following other)) :
      InStep related (.ask call next) (.ask call following)

variable {related : α → α → Prop} {outcomes : β → β → Prop}

theorem InStep.bind (one other : Flow α) (step : InStep related one other)
    (next following : α → Flow β)
    (rest : ∀ value copy, related value copy → InStep outcomes (next value) (following copy)) :
    InStep outcomes (one.bind next) (other.bind following) := by
  induction step with
  | done one other values => exact rest one other values
  | ask call first second _ ih => exact .ask call _ _ ih

theorem InStep.known (call : Call β) (known : call.Reworded = Eq) (next following : β → Flow α)
    (rest : ∀ reply, InStep related (next reply) (following reply)) :
    InStep related (.ask call next) (.ask call following) := by
  refine .ask call next following fun reply other same => ?_
  rw [known] at same
  rw [← same]
  exact rest reply

/-- The flow is in step with itself: what it is told in other words changes nothing but the words of
its own failures. -/
def Discreet (flow : Flow (Outcome α)) : Prop :=
  InStep Outcome.ToldAlike flow flow

theorem Discreet.andThen (flow : Flow (Outcome α)) (discreet : flow.Discreet)
    (next : α → Flow (Outcome β)) (rest : ∀ value, (next value).Discreet) :
    (flow.andThen next).Discreet := by
  refine InStep.bind flow flow discreet _ _ fun outcome copy told => ?_
  cases told with
  | ok value => exact rest value
  | failure one other told => exact .done _ _ (.failure one other told)
  | crash crash => exact .done _ _ (.crash crash)

theorem discreet_done (outcome : Outcome α) : (Flow.done outcome).Discreet :=
  .done _ _ (.refl outcome)

theorem discreet_askStore (limit : Nat) (request : StoreCall α) :
    (askStore limit request).Discreet := by
  refine .ask _ _ _ fun reply other reworded => ?_
  cases reworded with
  | same reply =>
      cases reply with
      | answered result => exact discreet_done _
      | late => exact discreet_done _
  | failed one other reworded => exact .done _ _ (.failure one other (reworded.toldAlike _ _))

/-- Both runs end with related values, or both were given up. -/
inductive Ended (related : α → α → Prop) : Except Payload α → Except Payload α → Prop
  | ok (one other : α) (values : related one other) : Ended related (.ok one) (.ok other)
  | panicked (one other : Payload) : Ended related (.error one) (.error other)

theorem InStep.attempt (host : Frail σ) (other : Frail τ) (alike : σ → τ → Prop)
    (fails : host.FailsLike other alike) (flow twin : Flow α) (step : InStep related flow twin)
    (state : σ) (copy : τ) (begun : alike state copy) :
    Ended related (flow.attempt host state).1 (twin.attempt other copy).1 ∧
      alike (flow.attempt host state).2 (twin.attempt other copy).2 := by
  induction step generalizing state copy with
  | done one other values => exact ⟨.ok one other values, begun⟩
  | ask call next following _ ih =>
      have both := fails.panics call state copy begun
      have after := fails.after call state copy begun
      have replies := fails.replies call state copy begun
      rw [Flow.attempt, Flow.attempt]
      cases here : host.panics? call state with
      | some payload =>
          rw [here] at both
          obtain ⟨there, panics⟩ := Option.isSome_iff_exists.mp (both.mp rfl)
          rw [panics]
          exact ⟨.panicked payload there, after⟩
      | none =>
          have quiet : other.panics? call copy = none := by
            rw [here] at both
            simpa using both
          rw [quiet]
          exact ih _ _ (replies here) _ _ after

end Flow

/-! ## Worlds that fail in other words -/

/-- A call is kept waiting as long, and fails if the other does, maybe in other words. -/
structure Turn.Reworded (turn other : Turn) : Prop where
  delay : other.delay = turn.delay
  failing : Option.Rel (fun one two => two = one ∨ one.Reworded two) turn.failing other.failing

/-- The same surroundings, but for the words in which store, cache and hasher fail. -/
structure Surroundings.Reworded (one other : Surroundings) : Prop where
  store : ∀ count, (one.store count).Reworded (other.store count)
  cache : ∀ count, (one.cache count).Reworded (other.cache count)
  health : other.cacheHealth = one.cacheHealth
  hash : ∀ count password words position,
    Gatehouse.Reworded ((one.hasher.hash count password).run words position).1
        ((other.hasher.hash count password).run words position).1 ∧
      ((other.hasher.hash count password).run words position).2 =
        ((one.hasher.hash count password).run words position).2
  compare : ∀ count password hash,
    Gatehouse.Reworded (one.hasher.compare count password hash)
      (other.hasher.compare count password hash)
  words : other.words = one.words
  ids : other.ids = one.ids

namespace World

variable {ν : Type}

theorem under_reworded (turn other : Turn) (reworded : turn.Reworded other) (limit : Nat)
    (work : World ν → Except Failure α × World ν) (world : World ν) :
    Reply.Reworded (world.under turn limit work).1 (world.under other limit work).1 ∧
      (world.under other limit work).2 = (world.under turn limit work).2 := by
  obtain ⟨delay, failing⟩ := reworded
  rw [under, under, delay]
  split
  · exact ⟨.same _, rfl⟩
  · generalize turn.failing = fails at failing ⊢
    generalize other.failing = again at failing ⊢
    cases failing with
    | none => exact ⟨.same _, rfl⟩
    | @some failure copy words =>
        rcases words with rfl | words
        · exact ⟨.same _, rfl⟩
        · exact ⟨.failed failure copy words, rfl⟩

theorem hash_reworded [Throttle.Arithmetic ν] (one other : Surroundings)
    (reworded : one.Reworded other) (password : String) (world : World ν) :
    Gatehouse.Reworded (world.hash one password).1 (world.hash other password).1 ∧
      (world.hash other password).2 = (world.hash one password).2 := by
  obtain ⟨result, drawn⟩ := reworded.hash world.hashed password one.words world.drawn
  simp only [hash, reworded.words]
  rw [drawn]
  exact ⟨result, rfl⟩

theorem storeWork_reworded (one other : Surroundings) (reworded : one.Reworded other)
    (request : StoreCall α) : storeWork (ν := ν) other request = storeWork one request := by
  funext world
  cases request with
  | create new => simp only [storeWork, freshId, reworded.ids]
  | findByEmail email => rfl
  | findById id => rfl

theorem standIn_reworded [Throttle.Arithmetic ν] (one other : Surroundings)
    (reworded : one.Reworded other) (world : World ν) :
    Gatehouse.Reworded (world.answer one .standIn).1 (world.answer other .standIn).1 ∧
      (world.answer other .standIn).2 = (world.answer one .standIn).2 := by
  obtain ⟨result, after⟩ := world.hash_reworded one other reworded standInPassword
  rw [answer, answer]
  cases world.standIn with
  | some hash => exact ⟨.same _, rfl⟩
  | none =>
      generalize world.hash one standInPassword = made at result after ⊢
      generalize world.hash other standInPassword = again at result after ⊢
      obtain ⟨made, later⟩ := made
      obtain ⟨again, too⟩ := again
      obtain rfl : too = later := after
      cases result with
      | same => cases made <;> exact ⟨.same _, rfl⟩
      | failed failure copy words => exact ⟨.failed failure copy words, rfl⟩

/-- Worlds in such surroundings answer every call alike, but for the words of failures. -/
theorem answer_reworded [Throttle.Arithmetic ν] (one other : Surroundings)
    (reworded : one.Reworded other) (call : Call β) (world : World ν) :
    call.Reworded (world.answer one call).1 (world.answer other call).1 ∧
      (world.answer other call).2 = (world.answer one call).2 := by
  cases call with
  | store limit request =>
      rw [answer, answer, storeWork_reworded one other reworded]
      exact under_reworded _ _ (reworded.store _) _ _ _
  | cache limit request =>
      rw [answer, answer, reworded.health]
      exact under_reworded _ _ (reworded.cache _) _ _ _
  | hash password => exact world.hash_reworded one other reworded password
  | compare password hash => exact ⟨reworded.compare _ password hash, rfl⟩
  | standIn => exact world.standIn_reworded one other reworded
  | now => exact ⟨rfl, rfl⟩
  | draw draw =>
      simp only [answer, reworded.words]
      exact ⟨rfl, trivial⟩
  | freshId =>
      simp only [answer, freshId, reworded.ids]
      exact ⟨rfl, trivial⟩
  | spend identity => exact ⟨rfl, rfl⟩

/-- Two worlds fail alike in surroundings that differ in nothing but words, if they panic at the
same calls. -/
theorem failsLike_of_reworded [Throttle.Arithmetic ν] (one other : Surroundings)
    (reworded : one.Reworded other) (host twin : Frail (World ν))
    (here : host.toHost = World.host one) (there : twin.toHost = World.host other)
    (same : ∀ {β : Type} (call : Call β) (world : World ν),
      (host.panics? call world).isSome ↔ (twin.panics? call world).isSome) :
    host.FailsLike twin Eq where
  panics call state copy begun := by
    subst begun
    exact same call state
  replies call state copy begun _ := by
    subst begun
    rw [here, there]
    exact (state.answer_reworded one other reworded call).1
  after call state copy begun := by
    subst begun
    rw [here, there]
    exact (state.answer_reworded one other reworded call).2.symm

end World

end Service

end Gatehouse

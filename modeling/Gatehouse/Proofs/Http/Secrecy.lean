import Mathlib.Data.List.Forall2
import Gatehouse.Proofs.Account.Unsolved
import Gatehouse.Proofs.Http.Arrivals
import Gatehouse.Proofs.Service.Twins

/-!
# Hashes stay inside

The flow of every request is its own twin: whatever hashes it is told, matching
ones lead to the same answer (`twin_respond`).  So two services whose hashers
cannot be told apart by what they say give the same answers through any history,
with any number of requests underway, although no hash of one need be a hash of
the other.
-/

set_option autoImplicit false

namespace Gatehouse

open Service

section

variable {matched : String → String → Prop} {α : Type} {related : α → α → Prop}

theorem Service.Flow.twin_askStore (limit : Nat) (request again : StoreCall α)
    (calls : (Call.store limit request).Alike matched (.store limit again))
    (replies : ∀ reply other, (Call.store limit request).Replies matched reply other →
      Reply.Agree related reply other) :
    Flow.Twin matched (Agree related) (Flow.askStore limit request)
      (Flow.askStore limit again) := by
  refine .ask _ _ calls _ _ fun reply other matching => ?_
  cases replies reply other matching with
  | answered one other agree => exact .done _ _ (agree.ofExcept related one other)
  | late => exact Flow.twin_stop _

theorem Service.Flow.twin_findByEmail (limit : Nat) (email : String) :
    Flow.Twin matched (Agree (Option.Rel (User.Alike matched)))
      (Flow.askStore limit (.findByEmail email)) (Flow.askStore limit (.findByEmail email)) :=
  Flow.twin_askStore limit _ _ (.same _ rfl) fun _ _ replies => replies

theorem Service.Flow.twin_findById (limit : Nat) (id : Uuid) :
    Flow.Twin matched (Agree (Option.Rel (User.Alike matched)))
      (Flow.askStore limit (.findById id)) (Flow.askStore limit (.findById id)) :=
  Flow.twin_askStore limit _ _ (.same _ rfl) fun _ _ replies => replies

end

/-! ## The services -/

namespace Account

variable (matched : String → String → Prop) (settings : Settings)

/-- The same pair, for users that are alike. -/
inductive Admission.Alike (admission : Admission) : Admission → Prop
  | facing (user : User) (alike : admission.user.Alike matched user) :
      Alike admission { admission with user := user }

/-- A user's hash is not written. -/
theorem Admission.Alike.write (admission copy : Admission) (alike : admission.Alike matched copy) :
    copy.write = admission.write := by
  cases alike with
  | facing user alike =>
      cases alike with
      | facing hash matching => rfl

theorem twin_issueFor (user copy : User) (alike : user.Alike matched copy) :
    Flow.Twin matched (Agree (Admission.Alike matched)) (issueFor settings user)
      (issueFor settings copy) := by
  refine .ask _ _ (.same _ rfl) _ _ ?_
  rintro now _ rfl
  have principal : copy.principal = user.principal := by
    cases alike with
    | facing hash matching => rfl
  simp only [principal]
  cases Token.issuePair settings.label user.principal settings.tokens now with
  | error fault => exact .done _ _ (.error fault)
  | ok pair => exact .done _ _ (.ok _ _ (.facing copy alike))

theorem twin_signup (input : Signup) :
    Flow.Twin matched (Agree (Admission.Alike matched)) (signup settings input)
      (signup settings input) := by
  refine (Flow.twin_findByEmail settings.limit input.email).andThen _ _ _ _
    fun found copy same => ?_
  cases same with
  | some alike => exact Flow.twin_stop _
  | none =>
      refine .ask _ _ (.same _ rfl) _ _ fun hashed twin agree => ?_
      cases agree with
      | error failure => exact Flow.twin_stop failure
      | ok hash twin matching =>
          refine Flow.Twin.andThen _ _ (Flow.twin_askStore settings.limit _ _
            (.create settings.limit input.name input.email hash twin matching)
            fun _ _ replies => replies) _ _ fun user copy alike => ?_
          exact twin_issueFor matched settings user copy alike

theorem twin_rejectUnknown (password : String) :
    Flow.Twin matched (Agree (Admission.Alike matched)) (rejectUnknown password)
      (rejectUnknown password) := by
  refine .ask _ _ (.same _ rfl) _ _ fun made twin agree => ?_
  cases agree with
  | error failure => exact Flow.twin_stop _
  | ok known twin matching =>
      exact .ask _ _ (.compare password known twin matching) _ _ fun _ _ _ => Flow.twin_stop _

theorem twin_checkCredentials (input : Login) :
    Flow.Twin matched (Agree (Admission.Alike matched)) (checkCredentials settings input)
      (checkCredentials settings input) := by
  refine (Flow.twin_findByEmail settings.limit input.email).andThen _ _ _ _
    fun found copy same => ?_
  cases same with
  | none => exact twin_rejectUnknown matched input.password
  | @some user copy alike =>
      have matching : matched user.passwordHash copy.passwordHash := by
        cases alike with
        | facing hash matching => exact matching
      refine .ask _ _ (.compare input.password _ _ matching) _ _ ?_
      rintro (failure | right | wrong) _ rfl
      · exact Flow.twin_stop failure
      · exact Flow.twin_stop _
      · exact twin_issueFor matched settings user copy alike

theorem twin_login (input : Login) :
    Flow.Twin matched (Agree (Admission.Alike matched)) (login settings input)
      (login settings input) := by
  refine (Flow.twin_of_plain _ (makes_checkCaptcha settings input)).bind_same _ _ ?_
  rintro (fault | passed)
  · exact .done _ _ (.error fault)
  · exact twin_checkCredentials matched settings input

theorem twin_refresh (presented : String) :
    Flow.Twin matched Eq (refresh settings presented) (refresh settings presented) := by
  refine .ask _ _ (.same _ rfl) _ _ ?_
  rintro now _ rfl
  simp only [refreshAt]
  split
  · exact .done _ _ rfl
  · refine Flow.Twin.bind _ _ (Flow.twin_findById settings.limit _) _ _ fun found copy agree => ?_
    cases agree with
    | error fault => exact .done _ _ rfl
    | ok found copy same =>
        cases same with
        | none => exact .done _ _ rfl
        | some alike =>
            cases alike with
            | facing hash matching => exact .done _ _ rfl

end Account

theorem Captcha.makes_generate (settings : Settings) :
    (generate settings).Makes Call.plain := by
  refine ⟨rfl, fun now => ⟨rfl, ?_⟩⟩
  rintro ⟨problem, drawn⟩
  cases drawn with
  | error failure => exact trivial
  | ok canvas =>
      refine ⟨rfl, fun id => ?_⟩
      cases problem.answer with
      | error crash => exact trivial
      | ok answer =>
          refine Flow.Makes.andThen _ _ _ ⟨rfl, fun reply => ?_⟩ fun _ => trivial
          rcases reply with ⟨_ | _⟩ | _ <;> exact trivial

namespace Http

/-! ## Requests -/

section

variable (matched : String → String → Prop) (settings : Config.Settings) (request : Request)

theorem twin_answering {α : Type} (related : α → α → Prop) (render : α → Response)
    (rendered : ∀ value copy, related value copy → render copy = render value)
    (flow copy : Flow (Outcome α)) (twin : Flow.Twin matched (Agree related) flow copy) :
    Flow.Twin matched Eq (answering render flow) (answering render copy) := by
  refine twin.bind _ _ _ _ fun outcome other agree => .done _ _ ?_
  cases agree with
  | error fault => rfl
  | ok value copy values => exact (rendered value copy values).symm

theorem twin_caller :
    Flow.Twin matched (Agree (User.Alike matched)) (caller settings request)
      (caller settings request) := by
  refine .ask _ _ (.same _ rfl) _ _ ?_
  rintro now _ rfl
  dsimp only
  split
  · exact .done _ _ (.error _)
  · refine (Flow.twin_findById _ _).andThen _ _ _ _ fun found copy same => ?_
    cases same with
    | none => exact Flow.twin_stop _
    | some alike => exact .done _ _ (.ok _ _ alike)

/-- Every endpoint tells of a user what the user's hash has no part in. -/
theorem twin_serve (endpoint : Endpoint) :
    Flow.Twin matched Eq (serve settings request endpoint) (serve settings request endpoint) := by
  cases endpoint with
  | signup =>
      simp only [serve, signup]
      split
      · exact .done _ _ rfl
      · refine twin_answering matched _ _ (fun admission copy alike => ?_) _ _
          (Account.twin_signup matched _ _)
        rw [alike.write]
  | login =>
      simp only [serve, login]
      split
      · exact .done _ _ rfl
      · refine .ask _ _ (.same _ rfl) _ _ ?_
        rintro now _ rfl
        refine (Account.twin_login matched _ _).bind _ _ _ _ fun outcome copy agree => .done _ _ ?_
        cases agree with
        | error fault => rfl
        | ok admission copy alike => rw [loginAnswer, loginAnswer, alike.write]
  | refresh =>
      simp only [serve, refresh]
      split
      · exact .done _ _ rfl
      · exact (Account.twin_refresh matched _ _).bind_same _ _ fun outcome => .done _ _ rfl
  | captcha =>
      have makes : (serve settings request .captcha).Makes Call.plain :=
        Flow.Makes.bind _ _ _ (Captcha.makes_generate _) fun _ => trivial
      exact Flow.twin_of_plain _ makes
  | me =>
      refine twin_answering matched _ _ (fun user copy alike => ?_) _ _
        (twin_caller matched settings request)
      cases alike with
      | facing hash matching => rfl
  | health => exact Flow.twin_of_plain _ ⟨rfl, fun _ => trivial⟩

theorem makes_passes (endpoint : Endpoint) :
    (passes settings request endpoint).Makes Call.plain := by
  rw [passes]
  split
  · cases settings.rateLimit.backend with
    | memory => exact ⟨rfl, fun _ => trivial⟩
    | shared =>
        refine ⟨rfl, fun reply => ?_⟩
        rcases reply with ⟨_ | _⟩ | _ <;> exact trivial
  · exact trivial

theorem makes_traceOf : (traceOf request).Makes Call.plain := by
  rw [traceOf]
  split
  · exact trivial
  · exact ⟨rfl, fun _ => trivial⟩

theorem twin_atEndpoint (endpoint : Endpoint) :
    Flow.Twin matched Eq (atEndpoint settings request endpoint)
      (atEndpoint settings request endpoint) := by
  have counted : Flow.Twin matched Eq (passes settings request endpoint) _ :=
    Flow.twin_of_plain _ (makes_passes settings request endpoint)
  refine counted.bind_same _ _ fun passed => ?_
  refine Flow.Twin.bind_same _ ?_ _ fun response => .done _ _ rfl
  split
  · split
    · exact twin_serve matched settings request endpoint
    · exact .done _ _ rfl
  · exact .done _ _ rfl

theorem twin_respond :
    Flow.Twin matched Eq (respond settings request) (respond settings request) := by
  refine (Flow.twin_of_plain _ (makes_traceOf request)).bind_same _ _ fun trace => ?_
  refine Flow.Twin.bind_same _ ?_ _ fun response => .done _ _ rfl
  rw [atPath]
  split
  · exact .done _ _ rfl
  · refine Flow.Twin.bind_same _ ?_ _ fun response => .done _ _ rfl
    cases Endpoint.ofPath? request.path with
    | none => exact .done _ _ rfl
    | some endpoint => exact twin_atEndpoint matched settings request endpoint

end

end Http

/-! ## Histories -/

namespace Service

variable {matched : String → String → Prop} {ν α : Type}

/-- The same requests are underway, with twin flows in alike worlds. -/
structure Crew.Alike (matched : String → String → Prop) (crew copy : Crew ν α) : Prop where
  world : crew.world.Alike matched copy.world
  flows : List.Forall₂ (Flow.Twin matched Eq) crew.flows copy.flows

theorem Flow.twins_getElem? (flows copies : List (Flow α))
    (twins : List.Forall₂ (Flow.Twin matched Eq) flows copies) (number : Nat) :
    Option.Rel (Flow.Twin matched Eq) flows[number]? copies[number]? := by
  induction twins generalizing number with
  | nil => exact .none
  | cons twin twins ih =>
      cases number with
      | zero => exact .some twin
      | succ number => exact ih number

theorem Flow.twins_set (flows copies : List (Flow α))
    (twins : List.Forall₂ (Flow.Twin matched Eq) flows copies) (number : Nat) (flow copy : Flow α)
    (twin : Flow.Twin matched Eq flow copy) :
    List.Forall₂ (Flow.Twin matched Eq) (flows.set number flow) (copies.set number copy) := by
  induction twins generalizing number with
  | nil => exact .nil
  | cons first twins ih =>
      cases number with
      | zero => exact .cons twin twins
      | succ number => exact .cons first (ih number)

theorem Crew.Alike.result (crew copy : Crew ν α) (alike : crew.Alike matched copy)
    (number : Nat) : copy.result? number = crew.result? number := by
  have there := Flow.twins_getElem? _ _ alike.flows number
  rw [Crew.result?, Crew.result?]
  generalize crew.flows[number]? = found at there ⊢
  generalize copy.flows[number]? = twin at there ⊢
  cases there with
  | none => rfl
  | some twin =>
      cases twin with
      | done value copy values => rw [values]
      | ask call again calls next following rest => rfl

theorem World.alike_start (wall : Instant) (room : Nat) (buckets : Throttle.Buckets ν) :
    (World.start wall room buckets).Alike matched (World.start wall room buckets) :=
  .facing Registry.empty none ⟨rfl, fun _ => .none⟩ .none

theorem World.Alike.atMoment (world copy : World ν) (alike : world.Alike matched copy)
    (moment : Moment) : (world.atMoment moment).Alike matched (copy.atMoment moment) := by
  cases alike with
  | facing registry standIn users standIns => exact .facing registry standIn users standIns

theorem World.Alike.swept (world copy : World ν) (alike : world.Alike matched copy)
    (clock : Nat) : (world.swept clock).Alike matched (copy.swept clock) := by
  cases alike with
  | facing registry standIn users standIns => exact .facing registry standIn users standIns

variable [Throttle.Arithmetic ν] (one other : Surroundings)
  (same : other = { one with hasher := other.hasher })
  (hashers : one.hasher.Alike matched other.hasher)

include same hashers

theorem Crew.Alike.turn (crew copy : Crew ν α) (alike : crew.Alike matched copy) (number : Nat) :
    (crew.after one (.turn number)).Alike matched (copy.after other (.turn number)) := by
  have there := Flow.twins_getElem? _ _ alike.flows number
  rw [Crew.after, Crew.after]
  generalize crew.flows[number]? = found at there ⊢
  generalize copy.flows[number]? = twin at there ⊢
  cases there with
  | none => exact alike
  | some twin =>
      obtain ⟨left, after⟩ := twin.turn one other same hashers _ _ _ _ alike.world
      exact ⟨after, Flow.twins_set _ _ alike.flows number _ _ left⟩

theorem Crew.Alike.confront (settings : Config.Settings) (crew copy : Crew ν Http.Response)
    (alike : crew.Alike matched copy) (occurrence : Http.Occurrence) :
    (crew.confront settings one occurrence).Alike matched
      (copy.confront settings other occurrence) := by
  rcases occurrence with (⟨moment, request⟩ | clock) | ⟨moment, number⟩
  · exact ⟨alike.world.atMoment _ _ moment,
      List.rel_append alike.flows (.cons (Http.twin_respond matched settings request) .nil)⟩
  · exact ⟨alike.world.swept _ _ clock, alike.flows⟩
  · exact Crew.Alike.turn one other same hashers ⟨crew.world.atMoment moment, crew.flows⟩
      ⟨copy.world.atMoment moment, copy.flows⟩
      ⟨alike.world.atMoment _ _ moment, alike.flows⟩ number

theorem Crew.Alike.confrontAll (settings : Config.Settings) (crew copy : Crew ν Http.Response)
    (alike : crew.Alike matched copy) (occurrences : List Http.Occurrence) :
    (crew.confrontAll settings one occurrences).Alike matched
      (copy.confrontAll settings other occurrences) := by
  induction occurrences generalizing crew copy with
  | nil => exact alike
  | cons occurrence occurrences ih =>
      exact ih _ _ (alike.confront one other same hashers settings crew copy occurrence)

end Service

namespace Http

/-- Two services that differ in nothing but their hashers, whose hashes match and who say the same
about hashes that match; the users they start with have matching hashes too.  Through any history,
with requests that are answered one after the other or side by side, every request gets the same
answer from both, to the last header and to the last letter of the body. -/
theorem hashes_stay_inside {ν : Type} [Throttle.Arithmetic ν] (settings : Config.Settings)
    (one other : Surroundings) (same : other = { one with hasher := other.hasher })
    (matched : String → String → Prop) (hashers : one.hasher.Alike matched other.hasher)
    (world copy : World ν) (alike : world.Alike matched copy) (occurrences : List Occurrence)
    (number : Nat) :
    ((Crew.mk copy []).confrontAll settings other occurrences).result? number =
      ((Crew.mk world []).confrontAll settings one occurrences).result? number := by
  have begun : (Crew.mk world ([] : List (Flow Response))).Alike matched ⟨copy, []⟩ := ⟨alike, .nil⟩
  exact (begun.confrontAll one other same hashers settings _ _ occurrences).result _ _ number

/-- The same password behind two labels. -/
def Relabelled (label other known twin : String) : Prop :=
  ∃ password : String, known = label ++ password ∧ twin = other ++ password

theorem alike_plain (label other : String) :
    Hasher.Alike (Relabelled label other) (.plain label) (.plain other) where
  hash count password words position := ⟨.ok _ _ ⟨password, rfl, rfl⟩, rfl⟩
  compare count password known twin matching := by
    obtain ⟨right, rfl, rfl⟩ := matching
    have same : (label ++ password == label ++ right) = (other ++ password == other ++ right) := by
      rw [Bool.eq_iff_iff, beq_iff_eq, beq_iff_eq, String.append_right_inj, String.append_right_inj]
    exact congrArg Except.ok same

/-- Ada signs up and logs in, at two services that keep her password behind different labels.  Both
welcome her twice with the same words, and only their registries tell them apart. -/
theorem hashes_stay_inside_relabelled :
    let settings : Config.Settings := { captcha := { requiredForLogin := false } }
    let one : Surroundings := { Account.trial with hasher := .plain "one:" }
    let other : Surroundings := { Account.trial with hasher := .plain "other:" }
    let world : World ℚ := .start .epoch 10 (.empty 60 0)
    let joining : Request := ⟨.post, "/api/auth/signup",
      [.text "content-type" "application/json"], none,
      Text.bytes "\x7b\"name\":\"ada\",\"email\":\"ada@example.com\",\"password\":\"lovelace\"\x7d"⟩
    let entering : Request := ⟨.post, "/api/auth/login",
      [.text "content-type" "application/json"], none,
      Text.bytes "\x7b\"email\":\"ada@example.com\",\"password\":\"lovelace\"\x7d"⟩
    let moment : Moment := ⟨0, .epoch, 0⟩
    let occurrences : List Occurrence :=
      .arrival (.comes moment joining) :: List.replicate 6 (.turn moment 0) ++
        .arrival (.comes moment entering) :: List.replicate 6 (.turn moment 1)
    let first := (Crew.mk world []).confrontAll settings one occurrences
    let second := (Crew.mk world []).confrontAll settings other occurrences
    (first.result? 0).map Response.status = some 201 ∧ second.result? 0 = first.result? 0 ∧
      (first.result? 1).map Response.status = some 200 ∧ second.result? 1 = first.result? 1 ∧
      (first.world.registry.findByEmail "ada@example.com").map User.passwordHash =
        some "one:lovelace" ∧
      (second.world.registry.findByEmail "ada@example.com").map User.passwordHash =
        some "other:lovelace" := by
  intro settings one other world joining entering moment occurrences first second
  have answers := hashes_stay_inside settings one other rfl _ (alike_plain "one:" "other:") world
    world (World.alike_start _ _ _) occurrences
  exact ⟨by decide +kernel, answers 0, by decide +kernel, answers 1, by decide +kernel,
    by decide +kernel⟩

end Http

end Gatehouse

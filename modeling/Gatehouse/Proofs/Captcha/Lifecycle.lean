import Gatehouse.Proofs.Captcha.Crowd
import Gatehouse.Proofs.Captcha.Problems
import Gatehouse.Proofs.Captcha.Sessions
import Gatehouse.Proofs.Instant.Timestamp
import Gatehouse.Proofs.Outcome

/-!
# The life of a challenge

A challenge is issued, its session waits in the cache, and the first verification
takes it out.  What the cache holds in between is what issuing has stored, or
nothing; so the verification judges by the question that was asked and by the
instant at which it was asked, whatever else happens to the world meanwhile.
-/

set_option autoImplicit false

namespace Gatehouse

namespace Service

variable {ν : Type} [Throttle.Arithmetic ν] (surroundings : Surroundings)

/-- The next call of the cache is answered within the limit and does not fail. -/
def World.Answers (world : World ν) (limit : Nat) : Prop :=
  (surroundings.cache world.cacheCalls).delay ≤ limit ∧
    (surroundings.cache world.cacheCalls).failing = none

theorem World.answer_cache_of_answers (limit : Nat) {α : Type} (world : World ν)
    (answers : world.Answers surroundings limit) (request : CacheCall α) :
    ∃ value later, world.answer surroundings (.cache limit request) =
      (.answered (.ok value), later) := by
  obtain ⟨inTime, works⟩ := answers
  obtain ⟨clock, waited⟩ := World.wait_clock { world with cacheCalls := world.cacheCalls + 1 }
    (surroundings.cache world.cacheCalls).delay
  rw [World.answer, World.under, if_neg (by simpa using inTime), waited]
  simp only [works]
  cases request <;> exact ⟨_, _, rfl⟩

end Service

namespace Captcha

open Service

variable {ν : Type} [Throttle.Arithmetic ν] (surroundings : Surroundings)

/-! ## What a key holds meanwhile -/

theorem cache_answer_store {α : Type} (limit : Nat) (request : StoreCall α) (world : World ν) :
    (world.answer surroundings (.store limit request)).2.cache = world.cache := by
  refine World.see_under World.cache (fun _ _ => rfl) _ limit _ (fun _ => ?_)
    { world with storeCalls := world.storeCalls + 1 }
  cases request <;> rfl

theorem cache_answer_standIn (world : World ν) :
    (world.answer surroundings .standIn).2.cache = world.cache :=
  world.see_standIn surroundings World.cache (fun _ => rfl) fun _ _ => rfl

theorem held_call {β : Type} (call : Call β) (world : World ν) :
    held (world.answer surroundings call).2 =
      (Shelf.after ⟨held world, []⟩ (call.deed (world.answer surroundings call).1)).held := by
  cases call with
  | cache limit request => exact (held_answer surroundings limit request world []).1
  | store limit request =>
      funext key
      unfold held
      rw [cache_answer_store]
      rfl
  | standIn =>
      funext key
      unfold held
      rw [cache_answer_standIn]
      rfl
  | hash password => rfl
  | compare password hash => rfl
  | now => rfl
  | draw draw => rfl
  | freshId => rfl
  | spend identity => rfl

/-- What a key holds changes by a value that goes off to it, or gets lost. -/
theorem held_after (shelf : Shelf) (key : String) (deed : Deed)
    (apart : deed.postsTo key = false) :
    (shelf.after deed).held key = shelf.held key ∨ (shelf.after deed).held key = none := by
  cases deed with
  | stored place value =>
      have differs : key ≠ place := by
        intro same
        simp [Deed.postsTo, same] at apart
      exact Or.inl (if_neg differs)
  | took place found =>
      by_cases same : key = place
      · exact Or.inr (if_pos same)
      · exact Or.inl (if_neg same)
  | deleted place =>
      by_cases same : key = place
      · exact Or.inr (if_pos same)
      · exact Or.inl (if_neg same)
  | _ => exact Or.inl rfl

/-- What may happen to a world meanwhile: any calls that send nothing to the key, and anything that
leaves the key as it is or loses what it holds. -/
inductive Meanwhile (key : String) (start : World ν) : World ν → Prop
  | here : Meanwhile key start start
  | answered {β : Type} (before : World ν) (reached : Meanwhile key start before) (call : Call β)
      (apart : (call.deed (before.answer surroundings call).1).postsTo key = false) :
      Meanwhile key start (before.answer surroundings call).2
  | drifted (before later : World ν) (reached : Meanwhile key start before)
      (drifts : held later key = held before key ∨ held later key = none) :
      Meanwhile key start later

/-- Meanwhile a key holds what it held, or nothing any more. -/
theorem Meanwhile.held (key : String) (start later : World ν)
    (meanwhile : Meanwhile surroundings key start later) :
    Captcha.held later key = Captcha.held start key ∨ Captcha.held later key = none := by
  induction meanwhile with
  | here => exact Or.inl rfl
  | answered before reached call apart ih =>
      rw [held_call]
      rcases held_after ⟨Captcha.held before, []⟩ key _ apart with same | lost
      · rw [same]
        exact ih
      · exact Or.inr lost
  | drifted before later reached drifts ih =>
      rcases drifts with same | lost
      · rw [same]
        exact ih
      · exact Or.inr lost

/-! ## Issuing -/

/-- The number that a question asks for. -/
def Asks (question : String) (value : Int) : Prop :=
  ∃ problem : Problem, problem.question = question ∧ problem.SolvedBy value

theorem Asks.unique (question : String) (value other : Int) (asks : Asks question value)
    (also : Asks question other) : value = other := by
  obtain ⟨problem, asked, solved⟩ := asks
  obtain ⟨another, same, solves⟩ := also
  rw [← asked] at same
  cases Problem.question_injective another problem same
  exact solved.unique problem value other solves

theorem fst_drawChallenge (settings : Settings) (words : Words) (position : Nat) :
    ((drawChallenge settings).run words position).1.1 =
      (Problem.generate.run words position).1 := by
  unfold drawChallenge
  rw [Draw.run_bind]
  split <;> rfl

theorem snd_drawChallenge (settings : Settings) (sized : settings.width ≠ 0 ∧ settings.height ≠ 0)
    (words : Words) (position : Nat) :
    ∃ canvas, ((drawChallenge settings).run words position).1.2 = .ok canvas := by
  have painted : ∀ text, ∃ draw, picture text settings.width settings.height = .ok draw := by
    intro text
    unfold picture
    rw [if_neg (by omega)]
    exact ⟨_, rfl⟩
  unfold drawChallenge
  rw [Draw.run_bind]
  obtain ⟨draw, paints⟩ := painted (Problem.generate.run words position).1.question
  simp only [paints]
  exact ⟨_, rfl⟩

variable (settings : Settings)

theorem run_askCache_eq_ok_iff {α : Type} (request : CacheCall α) (world later : World ν)
    (value : α) :
    (askCache settings request).run surroundings world = (.ok value, later) ↔
      world.answer surroundings (.cache settings.limit request) =
        (.answered (.ok value), later) := by
  rw [askCache, Flow.run_ask]
  rcases world.answer surroundings (.cache settings.limit request) with ⟨reply, after⟩
  constructor
  · intro ran
    rcases reply with ⟨failure | result⟩ | _
    · cases ran
    · cases ran
      rfl
    · cases ran
  · intro answered
    cases answered
    rfl

theorem held_of_set (limit : Nat) (key value : String) (lifetime : Nat) (world later : World ν)
    (posted : world.answer surroundings (.cache limit (.set key value lifetime)) =
      (.answered (.ok ()), later)) : held later key = some value := by
  have holds := held_call surroundings (.cache limit (.set key value lifetime)) world
  rw [posted] at holds
  rw [holds]
  exact if_pos rfl

theorem run_generateAt_eq_ok (now : Instant) (start issued : World ν) (challenge : Challenge)
    (generated : (generateAt settings now).run surroundings start = (.ok challenge, issued)) :
    ∃ answer : Int64, Asks challenge.question answer.toInt ∧
      held issued (Cache.Key.captchaSession challenge.session) =
        some (Session.text ⟨challenge.question, answer, now⟩) := by
  rw [generateAt, Flow.run_ask] at generated
  have problems := fst_drawChallenge settings surroundings.words start.drawn
  have drawn : (start.answer surroundings (.draw (drawChallenge settings))).1 =
      ((drawChallenge settings).run surroundings.words start.drawn).1 := rfl
  rw [← drawn] at problems
  generalize start.answer surroundings (.draw (drawChallenge settings)) = reply
    at generated problems
  obtain ⟨⟨problem, picture⟩, painted⟩ := reply
  obtain ⟨answer, answered, solved⟩ :=
    Problem.answer_generate surroundings.words start.drawn
  rw [← problems] at answered solved
  cases picture with
  | error failure => cases generated
  | ok canvas =>
      simp only [Flow.run_ask, answered] at generated
      obtain ⟨done, stored, asked, made⟩ :=
        Flow.run_andThen_eq_ok surroundings _ _ _ _ _ generated
      have posted := (run_askCache_eq_ok_iff surroundings settings _ _ _ _).mp asked
      cases made
      exact ⟨answer, ⟨problem, rfl, solved⟩, held_of_set surroundings _ _ _ _ _ _ posted⟩

/-- With a size that is not empty and a cache that answers, a challenge is issued under the next
identifier. -/
theorem run_generateAt (sized : settings.width ≠ 0 ∧ settings.height ≠ 0) (now : Instant)
    (start : World ν) (answers : start.Answers surroundings settings.limit) :
    ∃ picture issued, (generateAt settings now).run surroundings start =
      (.ok ⟨surroundings.ids start.issued, picture,
        (Problem.generate.run surroundings.words start.drawn).1.question⟩, issued) := by
  have problems := fst_drawChallenge settings surroundings.words start.drawn
  obtain ⟨canvas, pictures⟩ := snd_drawChallenge settings sized surroundings.words start.drawn
  obtain ⟨answer, answered, -⟩ := Problem.answer_generate surroundings.words start.drawn
  rw [← problems] at answered
  have draws : start.answer surroundings (.draw (drawChallenge settings)) =
      (((drawChallenge settings).run surroundings.words start.drawn).1,
        { start with
          drawn := ((drawChallenge settings).run surroundings.words start.drawn).2 }) := rfl
  rw [generateAt, Flow.run_ask, draws, ← problems]
  generalize (drawChallenge settings).run surroundings.words start.drawn = reply
    at answered pictures ⊢
  obtain ⟨⟨problem, drawn⟩, position⟩ := reply
  obtain rfl : drawn = .ok canvas := pictures
  have answered : problem.answer = .ok answer := answered
  simp only [Flow.run_ask, World.answer, World.freshId, answered]
  obtain ⟨done, issued, posted⟩ := World.answer_cache_of_answers surroundings settings.limit
    { start with drawn := position, issued := start.issued + 1 } answers
    (.set (Cache.Key.captchaSession (surroundings.ids start.issued))
      (Session.text ⟨problem.question, answer, now⟩) lifetimeNanos)
  have asked := (run_askCache_eq_ok_iff surroundings settings _ _ _ _).mpr posted
  exact ⟨canvas, issued, Flow.run_andThen surroundings _ _ _ _ _ asked⟩

/-! ## Verifying -/

theorem answer_take (limit : Nat) (key : String) (world : World ν)
    (answers : world.Answers surroundings limit) :
    ∃ later, world.answer surroundings (.cache limit (.take key)) =
        (.answered (.ok (held world key)), later) ∧ held later key = none := by
  obtain ⟨found, later, taken⟩ :=
    world.answer_cache_of_answers surroundings limit answers (.take key)
  obtain ⟨becomes, gives⟩ := held_answer surroundings limit (.take key) world []
  rw [taken] at becomes gives
  refine ⟨later, ?_, ?_⟩
  · rw [taken, gives key found rfl]
  · rw [becomes]
    exact if_pos rfl

theorem run_verifyAt (spelling answer : String) (later : Instant) (session : Uuid)
    (named : Uuid.ofText? (Text.trimmed spelling) = some session) (world : World ν)
    (answers : world.Answers surroundings settings.limit) (stored : String)
    (present : held world (Cache.Key.captchaSession session) = some stored) :
    let ran := (verifyAt settings spelling answer later).run surroundings world
    ran.1 = Outcome.ofExcept (verdict stored answer later) ∧
      held ran.2 (Cache.Key.captchaSession session) = none := by
  obtain ⟨after, taken, gone⟩ :=
    answer_take surroundings settings.limit (Cache.Key.captchaSession session) world answers
  rw [present] at taken
  have asked := (run_askCache_eq_ok_iff surroundings settings _ _ _ _).mpr taken
  simp only [verifyAt, named]
  rw [Flow.run_andThen surroundings _ _ world after (some stored) asked]
  exact ⟨rfl, gone⟩

theorem Session.check_late (session : Session) (answer : String) (now : Instant)
    (late : now.since session.createdAt > 300 * 1000000000) :
    session.check answer now = .error .captchaExpired :=
  if_pos late

theorem Session.check_in_time (session : Session) (answer : String) (now : Instant)
    (early : now.since session.createdAt ≤ 300 * 1000000000) :
    session.check answer now =
      if Decimal.int64? (Text.trim answer.toList) = some session.answer.toInt then .ok ()
      else .error .captchaWrong :=
  if_neg (Int.not_lt.mpr early)

theorem Session.check_eq_ok_iff (session : Session) (answer : String) (now : Instant) :
    session.check answer now = .ok () ↔ now.since session.createdAt ≤ 300 * 1000000000 ∧
      Decimal.int64? (Text.trim answer.toList) = some session.answer.toInt := by
  by_cases early : now.since session.createdAt ≤ 300 * 1000000000
  · rw [session.check_in_time answer now early, and_iff_right early]
    simp
  · rw [session.check_late answer now (Int.not_le.mp early)]
    simp only [early, false_and, reduceCtorEq]

theorem verdict_text (session : Session) (representable : session.createdAt.Representable)
    (answer : String) (later : Instant) :
    verdict session.text answer later = session.check answer later := by
  rw [verdict, session.ofStored_text ((Timestamp.ofText?_text_iff _).mpr representable)]
  rfl

/-- A challenge that was issued at a representable instant may be answered for 300 seconds, to the
nanosecond.  The first verification that names it while the cache still holds its session succeeds
exactly if it is not later than that and the answer is the number that the question asks for; later
than that the challenge has expired whatever the answer is, and before that any other answer is
wrong.  What is stored is read back as the session, and the session is used up. -/
theorem challenge_lifecycle (now : Instant) (representable : now.Representable)
    (start issued : World ν) (challenge : Challenge)
    (generated : (generateAt settings now).run surroundings start = (.ok challenge, issued))
    (before : World ν)
    (meanwhile : Meanwhile surroundings (Cache.Key.captchaSession challenge.session) issued before)
    (present : held before (Cache.Key.captchaSession challenge.session) ≠ none)
    (answers : before.Answers surroundings settings.limit) (spelling answer : String)
    (named : Uuid.ofText? (Text.trimmed spelling) = some challenge.session) (later : Instant) :
    ∃ value : Int, (∀ other, Asks challenge.question other ↔ other = value) ∧
      (∃ stored : Int64, stored.toInt = value ∧
        held before (Cache.Key.captchaSession challenge.session) =
          some (Session.text ⟨challenge.question, stored, now⟩) ∧
        Cache.ofStored Session.read (Session.text ⟨challenge.question, stored, now⟩) =
          .ok ⟨challenge.question, stored, now⟩) ∧
      let ran := (verifyAt settings spelling answer later).run surroundings before
      (ran.1 = .ok () ↔ later.since now ≤ 300 * 1000000000 ∧
        Decimal.int64? (Text.trim answer.toList) = some value) ∧
      (later.since now > 300 * 1000000000 → ran.1 = .error (.failure .captchaExpired)) ∧
      (later.since now ≤ 300 * 1000000000 →
        Decimal.int64? (Text.trim answer.toList) ≠ some value →
        ran.1 = .error (.failure .captchaWrong)) ∧
      held ran.2 (Cache.Key.captchaSession challenge.session) = none := by
  obtain ⟨stored, asks, waits⟩ :=
    run_generateAt_eq_ok surroundings settings now start issued challenge generated
  have holds : held before (Cache.Key.captchaSession challenge.session) =
      some (Session.text ⟨challenge.question, stored, now⟩) := by
    -- nothing else goes off to the key, so what it still holds is what was put there
    rcases meanwhile.held surroundings _ issued before with same | lost
    · exact same.trans waits
    · exact absurd lost present
  obtain ⟨ends, gone⟩ := run_verifyAt surroundings settings spelling answer later
    challenge.session named before answers _ holds
  rw [verdict_text _ representable] at ends
  refine ⟨stored.toInt, ?_, ⟨stored, rfl, holds, ?_⟩, ?_⟩
  · intro other
    constructor
    · intro also
      exact also.unique _ _ _ asks
    · rintro rfl
      exact asks
  · exact Session.ofStored_text _ ((Timestamp.ofText?_text_iff _).mpr representable)
  · intro ran
    have judged : ran.1 = Outcome.ofExcept _ := ends
    rw [judged]
    refine ⟨?_, ?_, ?_, gone⟩
    · rw [Outcome.ofExcept_eq_ok_iff, Session.check_eq_ok_iff]
    · intro late
      rw [Session.check_late ⟨challenge.question, stored, now⟩ answer later late]
      rfl
    · intro early wrong
      rw [Session.check_in_time ⟨challenge.question, stored, now⟩ answer later early,
        if_neg wrong]
      rfl

/-- One and one is asked.  Two, with a zero in front, is right to the last nanosecond, with the
identifier spelled in capitals and braces; then the challenge has expired. -/
theorem challenge_lifecycle_last_nanosecond :
    let surroundings : Surroundings := ⟨.healthy, .healthy, true, .plain "plain:", fun _ => 0,
      fun position => ⟨.ofNat 128 (position + 42)⟩⟩
    let settings : Settings := ⟨120, 40, 1000⟩
    let start : World Rat := .start .epoch 0 ⟨1, 0, .empty⟩
    let spelling := " \x7b00000000-0000-0000-0000-00000000002A\x7d"
    ∃ challenge issued, (generateAt settings .epoch).run surroundings start =
        (.ok challenge, issued) ∧ challenge.question = "1 + 1 = ?" ∧
      ((verifyAt settings spelling "02 " ⟨300, 0, by decide, by decide, by decide⟩).run surroundings
        issued).1 = .ok () ∧
      ((verifyAt settings spelling "02 " ⟨300, 1, by decide, by decide, by decide⟩).run surroundings
        issued).1 = .error (.failure .captchaExpired) := by
  intro surroundings settings start spelling
  have answers : ∀ world : World Rat, world.Answers surroundings settings.limit := fun world =>
    ⟨Nat.zero_le _, rfl⟩
  obtain ⟨picture, issued, generated⟩ := run_generateAt surroundings settings
    ⟨by decide, by decide⟩ .epoch start (answers start)
  obtain ⟨answer, -, waits⟩ := run_generateAt_eq_ok surroundings settings .epoch start issued _
    generated
  have asked : (Problem.generate.run surroundings.words start.drawn).1.question = "1 + 1 = ?" := by
    decide
  have named : Uuid.ofText? (Text.trimmed spelling) = some (surroundings.ids start.issued) := by
    decide
  have solved : (⟨1, 1, .add⟩ : Problem).SolvedBy 2 := by
    unfold Problem.SolvedBy
    decide
  rw [asked] at generated
  have lives := challenge_lifecycle surroundings settings .epoch (Or.inl (by decide)) start issued _
    generated issued .here (by rw [waits]; simp) (answers issued) spelling "02 " named
  refine ⟨_, issued, generated, rfl, ?_, ?_⟩
  · obtain ⟨value, asks, -, passes, -⟩ := lives ⟨300, 0, by decide, by decide, by decide⟩
    have question : (⟨1, 1, .add⟩ : Problem).question = "1 + 1 = ?" := by decide
    have two := (asks 2).mp ⟨⟨1, 1, .add⟩, question, solved⟩
    apply passes.mpr
    rw [← two]
    exact ⟨by decide, by decide⟩
  · obtain ⟨value, -, -, -, expired, -⟩ := lives ⟨300, 1, by decide, by decide, by decide⟩
    exact expired (by decide)

end Captcha

end Gatehouse

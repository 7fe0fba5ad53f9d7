import Gatehouse.Proofs.Account.Refinement
import Gatehouse.Proofs.Captcha.Lifecycle
import Gatehouse.Proofs.Service.Calls

/-!
# Logins without a solved challenge

A service whose sessions are kept by a keeper: the rest of it, users and hasher
included, may be anything.  What the captcha part of a login comes to is decided
by the keeper alone, and a login whose captcha part is not accepted is over with
it.  So two services with the same keeper cannot be told apart by such logins,
whatever the e-mail addresses and the passwords, and neither is asked about them.
-/

set_option autoImplicit false

namespace Gatehouse

open Service

/-- Tells the time and answers the calls of a cache, out of a state. -/
structure Service.Keeper (κ : Type) where
  now : κ → Instant
  answer : {α : Type} → Nat → CacheCall α → κ → Reply α × κ

/-- The host leaves time and cache to a keeper, of whose state it shows a view. -/
structure Service.Host.Defers {σ κ : Type} (host : Host σ) (keeper : Keeper κ) (view : σ → κ) :
    Prop where
  now : ∀ state, (host.answer .now state).1 = keeper.now (view state) ∧
    view (host.answer .now state).2 = view state
  cache : ∀ {α : Type} (limit : Nat) (call : CacheCall α) (state : σ),
    (host.answer (.cache limit call) state).1 = (keeper.answer limit call (view state)).1 ∧
      view (host.answer (.cache limit call) state).2 = (keeper.answer limit call (view state)).2

namespace Account

variable {σ τ κ : Type}

/-- What a reply of the cache says about an answer. -/
def weigh (answer : String) (now : Instant) : Reply (Option String) → Except Failure Unit
  | .late => .error .captchaStoreLate
  | .answered (.error failure) => .error (.captchaStoreDown failure.display)
  | .answered (.ok none) => .error .captchaUnknown
  | .answered (.ok (some stored)) => Captcha.verdict stored answer now

/-- What a keeper makes of the captcha part of a login. -/
def inspect (settings : Captcha.Settings) (keeper : Keeper κ) (state : κ) :
    Option CaptchaAnswer → Except Failure Unit × κ
  | none => (.error .captchaRequired, state)
  | some captcha =>
    match Uuid.ofText? (Text.trimmed captcha.session) with
    | none => (.error .captchaUnknown, state)
    | some id =>
      let handed := keeper.answer settings.limit (.take (Cache.Key.captchaSession id)) state
      (weigh captcha.answer (keeper.now state) handed.1, handed.2)

theorem weigh_eq_ok_iff (answer : String) (now : Instant) (reply : Reply (Option String)) :
    weigh answer now reply = .ok () ↔ ∃ stored session, reply = .answered (.ok (some stored)) ∧
      Cache.ofStored Captcha.Session.read stored = .ok session ∧
      now.since session.createdAt ≤ 300 * 1000000000 ∧
      Decimal.int64? (Text.trim answer.toList) = some session.answer.toInt := by
  rcases reply with ⟨failure | _ | stored⟩ | _
  · simp [weigh]
  · simp [weigh]
  · simp [weigh, Captcha.verdict, bind_eq_ok_iff, Captcha.Session.check_eq_ok_iff]
  · simp [weigh]

theorem inspect_eq_ok_iff (settings : Captcha.Settings) (keeper : Keeper κ) (state : κ)
    (captcha : Option CaptchaAnswer) :
    (inspect settings keeper state captcha).1 = .ok () ↔ ∃ given id stored session,
      captcha = some given ∧ Uuid.ofText? (Text.trimmed given.session) = some id ∧
      (keeper.answer settings.limit (.take (Cache.Key.captchaSession id)) state).1 =
        .answered (.ok (some stored)) ∧
      Cache.ofStored Captcha.Session.read stored = .ok session ∧
      (keeper.now state).since session.createdAt ≤ 300 * 1000000000 ∧
      Decimal.int64? (Text.trim given.answer.toList) = some session.answer.toInt := by
  cases captcha with
  | none => simp [inspect]
  | some given =>
      cases named : Uuid.ofText? (Text.trimmed given.session) with
      | none => simp [inspect, named]
      | some id => simp [inspect, named, weigh_eq_ok_iff]

variable (settings : Settings) (input : Login)

theorem makes_verify (captcha : CaptchaAnswer) :
    (Captcha.verify settings.captcha captcha.session captcha.answer).Makes Call.plain := by
  refine ⟨rfl, fun now => ?_⟩
  simp only [Captcha.verifyAt]
  split
  · exact trivial
  · refine Flow.Makes.andThen _ _ _ ⟨rfl, fun reply => ?_⟩ fun found => ?_
    · rcases reply with ⟨_ | _⟩ | _ <;> exact trivial
    · cases found <;> exact trivial

theorem makes_checkCaptcha : (checkCaptcha settings input).Makes Call.plain := by
  rw [checkCaptcha]
  split
  · split
    · exact trivial
    · exact makes_verify settings _
  · exact trivial

theorem runWith_verify (host : Host σ) (keeper : Keeper κ) (view : σ → κ)
    (defers : host.Defers keeper view) (state : σ) (captcha : CaptchaAnswer) :
    let ran := (Captcha.verify settings.captcha captcha.session captcha.answer).runWith host state
    let inspected := inspect settings.captcha keeper (view state) (some captcha)
    ran.1 = Outcome.ofExcept inspected.1 ∧ view ran.2 = inspected.2 := by
  obtain ⟨tells, same⟩ := defers.now state
  simp only [Captcha.verify, Flow.runWith, tells, Captcha.verifyAt, inspect]
  cases Uuid.ofText? (Text.trimmed captcha.session) with
  | none => exact ⟨rfl, same⟩
  | some id =>
      obtain ⟨replies, leaves⟩ := defers.cache settings.captcha.limit
        (.take (Cache.Key.captchaSession id)) (host.answer .now state).2
      rw [same] at replies leaves
      simp only [Captcha.askCache, Flow.andThen, Flow.bind, Flow.runWith, replies]
      rcases (keeper.answer settings.captcha.limit (.take (Cache.Key.captchaSession id))
        (view state)).1 with ⟨failure | _ | stored⟩ | _
      all_goals exact ⟨rfl, leaves⟩

theorem runWith_checkCaptcha (required : settings.captchaRequired = true) (host : Host σ)
    (keeper : Keeper κ) (view : σ → κ) (defers : host.Defers keeper view) (state : σ) :
    let ran := (checkCaptcha settings input).runWith host state
    let inspected := inspect settings.captcha keeper (view state) input.captcha
    ran.1 = Outcome.ofExcept inspected.1 ∧ view ran.2 = inspected.2 := by
  rw [checkCaptcha, if_pos required]
  cases input.captcha with
  | none => exact ⟨rfl, rfl⟩
  | some captcha => exact runWith_verify settings host keeper view defers state captcha

theorem runWith_login_refused (required : settings.captchaRequired = true) (host : Host σ)
    (keeper : Keeper κ) (view : σ → κ) (defers : host.Defers keeper view) (state : σ)
    (failure : Failure)
    (refused : (inspect settings.captcha keeper (view state) input.captcha).1 = .error failure) :
    let ran := (login settings input).runWith host state
    ran.1 = .error (.failure failure) ∧
      view ran.2 = (inspect settings.captcha keeper (view state) input.captcha).2 ∧
      ∀ made ∈ (login settings input).calls host state, made.2.plain = true := by
  obtain ⟨ends, leaves⟩ :=
    runWith_checkCaptcha settings input required host keeper view defers state
  rw [refused] at ends
  rw [login, Flow.runWith_andThen_error host _ _ state _ ends,
    Flow.calls_andThen_error host _ _ state _ ends]
  exact ⟨rfl, leaves, (makes_checkCaptcha settings input).calls _ _ host state⟩

/-- A login looks at credentials exactly if its captcha part is accepted. -/
theorem asks_credentials_iff (required : settings.captchaRequired = true) (host : Host σ)
    (keeper : Keeper κ) (view : σ → κ) (defers : host.Defers keeper view) (state : σ) :
    (∃ made ∈ (login settings input).calls host state, made.2.credential = true) ↔
      (inspect settings.captcha keeper (view state) input.captcha).1 = .ok () := by
  obtain ⟨ends, -⟩ := runWith_checkCaptcha settings input required host keeper view defers state
  cases inspected : (inspect settings.captcha keeper (view state) input.captcha).1 with
  | error failure =>
      obtain ⟨-, -, plain⟩ := runWith_login_refused settings input required host keeper view
        defers state failure inspected
      refine iff_of_false ?_ (by simp)
      rintro ⟨call, made, asks⟩
      have spared := plain call made
      rw [Call.plain, asks] at spared
      cases spared
  | ok accepted =>
      rw [inspected] at ends
      refine iff_of_true ?_ rfl
      rw [login, Flow.calls_andThen_ok host _ _ state () ends]
      exact ⟨⟨_, .store settings.limit (.findByEmail input.email)⟩,
        List.mem_append_right _ List.mem_cons_self, rfl⟩

end Account

/-! ## The keeper in a world -/

namespace Service

variable {ν : Type}

/-- What is left of a world when only the clocks and the cache count. -/
def World.cacheSide (world : World ν) : World ν :=
  { World.start world.wall 0 (.empty 0 0) with
    clock := world.clock
    valueClock := world.valueClock
    cache := world.cache
    cacheCalls := world.cacheCalls }

def World.keeper (condition : Condition) (health : Bool) : Keeper (World ν) where
  now := World.wall
  answer limit call world :=
    { world with cacheCalls := world.cacheCalls + 1 }.under (condition world.cacheCalls) limit
      (World.cacheWork health call)

theorem World.under_cacheSide {α : Type} (turn : Turn) (limit : Nat) (health : Bool)
    (call : CacheCall α) (world : World ν) :
    let answered := world.under turn limit (World.cacheWork health call)
    let seen := world.cacheSide.under turn limit (World.cacheWork health call)
    answered.1 = seen.1 ∧ answered.2.cacheSide = seen.2 := by
  simp only [World.under]
  split
  · exact ⟨rfl, rfl⟩
  · cases turn.failing with
    | some failure => exact ⟨rfl, rfl⟩
    | none => cases call <;> exact ⟨rfl, rfl⟩

/-- Whatever users and hasher a world has, its clocks and its cache keep the sessions. -/
theorem World.host_defers [Throttle.Arithmetic ν] (surroundings : Surroundings) :
    (World.host surroundings).Defers
      (World.keeper (ν := ν) surroundings.cache surroundings.cacheHealth) World.cacheSide where
  now _ := ⟨rfl, rfl⟩
  cache limit call world := World.under_cacheSide (surroundings.cache world.cacheCalls) limit
    surroundings.cacheHealth call { world with cacheCalls := world.cacheCalls + 1 }

end Service

/-! ## Two services -/

namespace Account

variable {σ τ κ : Type}

/-- Two services with the same keeper in the same state, and two logins that may have nothing in
common but their captcha part.  If it is not accepted, both end with the same failure, leave the
keeper in the same state, and ask neither the users nor the hasher anything. -/
theorem unsolved_logins_alike (settings other : Settings) (input guess : Login)
    (required : settings.captchaRequired = true) (also : other.captchaRequired = true)
    (captchas : other.captcha = settings.captcha) (same : guess.captcha = input.captcha)
    (keeper : Keeper κ) (first : Host σ) (second : Host τ) (view : σ → κ) (sight : τ → κ)
    (defers : first.Defers keeper view) (yields : second.Defers keeper sight) (state : σ)
    (another : τ) (alike : sight another = view state)
    (refused : (inspect settings.captcha keeper (view state) input.captcha).1 ≠ .ok ()) :
    let ran := (login settings input).runWith first state
    let guessed := (login other guess).runWith second another
    (∃ failure, ran.1 = .error (.failure failure) ∧ guessed.1 = .error (.failure failure)) ∧
      sight guessed.2 = view ran.2 ∧
      (∀ made ∈ (login settings input).calls first state, made.2.plain = true) ∧
      ∀ made ∈ (login other guess).calls second another, made.2.plain = true := by
  cases inspected : (inspect settings.captcha keeper (view state) input.captcha).1 with
  | ok accepted => exact absurd inspected refused
  | error failure =>
      obtain ⟨ends, leaves, plain⟩ := runWith_login_refused settings input required first keeper
        view defers state failure inspected
      have seen : (inspect other.captcha keeper (sight another) guess.captcha).1 =
          .error failure := by
        rw [captchas, alike, same]
        exact inspected
      obtain ⟨fails, yielded, spares⟩ := runWith_login_refused other guess also second keeper
        sight yields another failure seen
      refine ⟨⟨failure, ends, fails⟩, ?_, plain, spares⟩
      rw [leaves, yielded, captchas, alike, same]

/-- A session is waiting and its answer is wrong.  One service knows the user, who even gives the
right password; the other knows nobody and its store and its hasher fail.  Both say that the answer
is wrong. -/
theorem unsolved_logins_alike_wrong_answer :
    let session : Captcha.Session := ⟨"1 + 1 = ?", 2, .epoch⟩
    let waiting := (Cache.Memory.empty 10).set (Cache.Key.captchaSession (trial.ids 7)) session.text
      Captcha.lifetimeNanos 0
    let broken : Surroundings := { trial with
      store := .steady 0 (some (.inputOutput "gone"))
      hasher := trial.hasher.failingCompare (.inputOutput "gone") }
    let settings : Settings := { trialSettings with captchaRequired := true }
    let captcha : CaptchaAnswer := ⟨"00000000-0000-0000-0000-000000000007", "3"⟩
    let input : Login := ⟨"ada@example.com", "lace", some captcha⟩
    let guess : Login := ⟨"eve@example.com", "", some captcha⟩
    let empty : World Rat := { World.start .epoch 10 ⟨1, 0, .empty⟩ with cache := waiting }
    let peopled := { empty with
      registry := (empty.registry.create (trial.ids 0) .epoch
        ⟨"ada", "ada@example.com", "plain:lace"⟩).2 }
    let ran := (login settings input).runWith (World.host trial) peopled
    let guessed := (login settings guess).runWith (World.host broken) empty
    ran.1 = .error (.failure .captchaWrong) ∧ guessed.1 = .error (.failure .captchaWrong) ∧
      guessed.2.cacheSide = ran.2.cacheSide ∧
      (∀ made ∈ (login settings input).calls (World.host trial) peopled, made.2.plain = true) ∧
      ∀ made ∈ (login settings guess).calls (World.host broken) empty, made.2.plain = true := by
  intro session waiting broken settings captcha input guess empty peopled ran guessed
  have named : Uuid.ofText? (Text.trimmed captcha.session) = some (trial.ids 7) := by decide
  have taken : (waiting.take (Cache.Key.captchaSession (trial.ids 7))).1 = some session.text := by
    simp only [waiting, Cache.Memory.take, Cache.Memory.set, Table.get?_put, if_pos]
    rfl
  have weighed : (inspect settings.captcha (World.keeper trial.cache trial.cacheHealth)
      peopled.cacheSide (some captcha)).1 = .error .captchaWrong := by
    have handed : ((World.keeper trial.cache trial.cacheHealth).answer settings.captcha.limit
        (.take (Cache.Key.captchaSession (trial.ids 7))) peopled.cacheSide).1 =
          .answered (.ok (some session.text)) :=
      congrArg (fun found => Reply.answered (.ok found)) taken
    simp only [inspect, named, handed, weigh]
    rw [Captcha.verdict_text session (Or.inl (by decide))]
    decide
  have alike := unsolved_logins_alike settings settings input guess rfl rfl rfl rfl _ _ _ _ _
    (World.host_defers (ν := Rat) trial) (World.host_defers (ν := Rat) broken) peopled empty rfl
    (by rw [weighed]; simp)
  obtain ⟨⟨failure, ends, fails⟩, same, plain, spares⟩ := alike
  obtain ⟨wrong, -⟩ := runWith_login_refused settings input rfl _ _ _ (World.host_defers trial)
    peopled .captchaWrong weighed
  obtain rfl := Fault.failure.inj (Except.error.inj (ends.symm.trans wrong))
  exact ⟨ends, fails, same, plain, spares⟩

end Account

end Gatehouse

import Gatehouse.Proofs.Account.Outcomes

/-!
# What an admission tells

Whatever the hasher does and whatever is asked of challenges: whoever is
admitted is in the registry, either from before or under a fresh identifier, and
the pair that is returned was signed for that user.  Nothing else changes the
registry, and a refresh token is exchanged by what the registry finds.
-/

set_option autoImplicit false

namespace Gatehouse

/-- One user has joined under an address that nobody had, and nothing else has changed. -/
def Registry.Gains (before : Registry) (user : User) (after : Registry) : Prop :=
  before.byEmail.get? (Registry.emailKey user.email) = none ∧
    after = ⟨before.users.put user.id user,
      before.byEmail.put (Registry.emailKey user.email) user.id⟩

theorem Registry.create_gains (registry : Registry) (id : Uuid) (now : Instant) (new : NewUser) :
    (registry.byEmail.get? (emailKey new.email) ≠ none ∧
        registry.create id now new = (.error .emailTaken, registry)) ∨
      ∃ after, registry.create id now new =
          (.ok ⟨id, new.name, new.email, new.passwordHash, now⟩, after) ∧
        registry.Gains ⟨id, new.name, new.email, new.passwordHash, now⟩ after := by
  unfold Registry.create Table.contains
  cases held : registry.byEmail.get? (emailKey new.email) with
  | none => exact Or.inr ⟨_, rfl, held, rfl⟩
  | some id => exact Or.inl ⟨Option.some_ne_none id, rfl⟩

namespace Account

open Service

/-! ## Quiet flows -/

theorem quiet_verify (settings : Captcha.Settings) (session answer : String) :
    (Captcha.verify settings session answer).Quiet := by
  refine ⟨rfl, fun now => ?_⟩
  simp only [Captcha.verifyAt]
  cases Uuid.ofText? (Text.trimmed session) with
  | none => exact trivial
  | some id =>
      refine Flow.Quiet.andThen _ _ ⟨rfl, fun reply => ?_⟩ fun found => ?_
      · rcases reply with ⟨_ | _⟩ | _ <;> exact trivial
      · cases found <;> exact trivial

theorem quiet_checkCaptcha (settings : Settings) (input : Login) :
    (checkCaptcha settings input).Quiet := by
  rw [checkCaptcha]
  split
  · cases input.captcha with
    | none => exact trivial
    | some captcha => exact quiet_verify settings.captcha captcha.session captcha.answer
  · exact trivial

theorem quiet_login (settings : Settings) (input : Login) : (login settings input).Quiet := by
  refine Flow.Quiet.andThen _ _ (quiet_checkCaptcha settings input) fun _ => ?_
  refine Flow.Quiet.andThen _ _ (Flow.quiet_askStore _ _ rfl) fun found => ?_
  cases found with
  | none =>
      refine ⟨rfl, fun hash => ?_⟩
      cases hash with
      | error failure => exact trivial
      | ok hash => exact ⟨rfl, fun _ => trivial⟩
  | some user =>
      refine ⟨rfl, fun compared => ?_⟩
      rcases compared with failure | wrong | right
      · exact trivial
      · exact trivial
      · exact ⟨rfl, fun _ => trivial⟩

theorem quiet_refreshAt (label : String) (tokens : TokenSettings) (limit : Nat)
    (presented : String) (now : Instant) : (refreshAt label tokens limit presented now).Quiet := by
  rw [refreshAt]
  split
  · exact trivial
  · refine Flow.Quiet.andThen _ _ (Flow.quiet_askStore _ _ rfl) fun found => ?_
    cases found <;> exact trivial

/-! ## Admissions -/

/-- How a signup may end: nobody has joined, or a user under the next identifier, who gets a pair
of their own. -/
inductive Enrols {ν : Type} (surroundings : Surroundings) (settings : Settings) (world : World ν) :
    Outcome Admission → World ν → Prop
  | refused (fault : Fault) (later : World ν) (registry : later.registry = world.registry)
      (least : world.issued ≤ later.issued) (most : later.issued ≤ world.issued + 1) :
      Enrols surroundings settings world (.error fault) later
  | joined (user : User) (pair : TokenPair) (later : World ν)
      (fresh : user.id = surroundings.ids world.issued)
      (puts : later.registry.users = world.registry.users.put user.id user)
      (gone : later.issued = world.issued + 1)
      (signed : Token.SignedFor settings.label settings.tokens user.principal world.wall pair) :
      Enrols surroundings settings world (.ok ⟨user, pair⟩) later

theorem Enrols.of_still {ν : Type} (surroundings : Surroundings) (settings : Settings)
    (world middle : World ν) (still : world.Still middle) (result : Outcome Admission)
    (later : World ν) (enrols : Enrols surroundings settings middle result later) :
    Enrols surroundings settings world result later := by
  obtain ⟨registry, issued, wall⟩ := still
  cases enrols with
  | refused fault later same least most =>
      rw [issued] at least most
      exact .refused fault later (same.trans registry) least most
  | joined user pair later fresh puts gone signed =>
      rw [issued] at fresh gone
      rw [registry] at puts
      rw [wall] at signed
      exact .joined user pair later fresh puts gone signed

section

variable {ν : Type} [Throttle.Arithmetic ν] (surroundings : Surroundings) (settings : Settings)

theorem run_issueFor_eq_ok (user : User) (world later : World ν) (admission : Admission)
    (run : (issueFor settings user).run surroundings world = (.ok admission, later)) :
    admission.user = user ∧
      Token.SignedFor settings.label settings.tokens user.principal world.wall admission.tokens := by
  have issued : (do
      let tokens ← Token.issuePair settings.label user.principal settings.tokens world.wall
      .ok ⟨user, tokens⟩ : Outcome Admission) = .ok admission := congrArg Prod.fst run
  obtain ⟨pair, signed, same⟩ := (bind_eq_ok_iff _ _ _).mp issued
  cases same
  exact ⟨rfl, (Token.issuePair_eq_ok_iff _ _ _ _ _).mp signed⟩

theorem run_rejectUnknown (password : String) (world : World ν) :
    ((rejectUnknown password).run surroundings world).1 =
      .error (.failure .invalidCredentials) := by
  rw [rejectUnknown, Flow.run_ask]
  cases (world.answer surroundings .standIn).1 with
  | error failure => rfl
  | ok hash => rfl

variable (prompt : surroundings.Prompt settings.limit)

include prompt

theorem run_login_eq_ok (input : Login) (world later : World ν) (admission : Admission)
    (run : (login settings input).run surroundings world = (.ok admission, later)) :
    (∃ id, world.registry.users.get? id = some admission.user) ∧
      Token.SignedFor settings.label settings.tokens admission.user.principal world.wall
        admission.tokens := by
  rw [login] at run
  obtain ⟨_, passed, captcha, run⟩ := Flow.run_andThen_eq_ok surroundings _ _ _ _ _ run
  have still := Flow.still_run surroundings _ (quiet_checkCaptcha settings input) world
  rw [captcha] at still
  rw [checkCredentials] at run
  obtain ⟨found, asked, looked, run⟩ := Flow.run_andThen_eq_ok surroundings _ _ _ _ _ run
  rw [Flow.run_askStore surroundings settings.limit prompt] at looked
  obtain ⟨looksUp, rfl⟩ := Prod.mk.inj looked
  simp only [World.storeWork, World.asked_registry, Outcome.ofExcept_ok, Except.ok.injEq] at looksUp
  simp only [World.storeWork] at run
  cases found with
  | none =>
      have refused := congrArg Prod.fst run
      rw [run_rejectUnknown] at refused
      cases refused
  | some user =>
      simp only [Flow.run_ask] at run
      have same := (passed.asked surroundings).still_answer surroundings
        (.compare input.password user.passwordHash) rfl
      rcases compared : (passed.asked surroundings).answer surroundings
        (.compare input.password user.passwordHash) with ⟨result, after⟩
      rw [compared] at run same
      rcases result with failure | wrong | right
      · cases run
      · cases run
      · obtain ⟨rfl, signed⟩ := run_issueFor_eq_ok surroundings settings user after later admission
          run
        rw [same.wall, World.asked_wall, still.wall] at signed
        rw [still.registry] at looksUp
        rw [Registry.findByEmail] at looksUp
        obtain ⟨id, -, held⟩ := Option.bind_eq_some_iff.mp looksUp
        exact ⟨⟨id, held⟩, signed⟩

/-- A new user is put under the next identifier, which is gone whether or not there is room. -/
theorem run_create (new : NewUser) (world : World ν) :
    ∃ later, (Flow.askStore settings.limit (.create new)).run surroundings world =
        (Outcome.ofExcept
          (world.registry.create (surroundings.ids world.issued) world.wall new).1, later) ∧
      later.registry =
        (world.registry.create (surroundings.ids world.issued) world.wall new).2 ∧
      later.issued = world.issued + 1 ∧ later.wall = world.wall := by
  refine ⟨(World.storeWork surroundings (.create new) (world.asked surroundings)).2, ?_, ?_, ?_, ?_⟩
  · rw [Flow.run_askStore surroundings settings.limit prompt]
    simp [World.storeWork, World.freshId]
  · simp [World.storeWork, World.freshId]
  · simp [World.storeWork, World.freshId]
  · simp [World.storeWork, World.freshId]

theorem run_enrol (new : NewUser) (world : World ν) (issues : settings.Issues world.wall) :
    let ran := ((Flow.askStore settings.limit (.create new)).andThen fun user =>
      issueFor settings user).run surroundings world
    Enrols surroundings settings world ran.1 ran.2 := by
  obtain ⟨later, makes, becomes, gone, same⟩ := run_create surroundings settings prompt new world
  rcases world.registry.create_gains (surroundings.ids world.issued) world.wall new with
    ⟨-, taken⟩ | ⟨after, created, -, rfl⟩
  · rw [taken] at makes becomes
    rw [Flow.andThen, Flow.run_bind, makes]
    exact .refused (.failure .emailTaken) later becomes (by omega) (by omega)
  · rw [created] at makes becomes
    let user : User :=
      ⟨surroundings.ids world.issued, new.name, new.email, new.passwordHash, world.wall⟩
    have made : (Flow.askStore settings.limit (.create new)).run surroundings world =
        (.ok user, later) := makes
    obtain ⟨pair, pairs, signed⟩ := Token.issuePair_signed settings.label settings.tokens
      world.wall issues.access issues.refresh user.principal
    have issued : (issueFor settings user).run surroundings later = (.ok ⟨user, pair⟩, later) := by
      rw [issueFor, Flow.run_ask]
      simp only [World.answer, Flow.run_done, same, pairs, ok_bind]
    rw [Flow.run_andThen surroundings _ _ world _ _ made, issued]
    exact .joined user pair later rfl (congrArg Registry.users becomes) gone signed

/-- A signup puts a user under a fresh identifier, or fails and adds nobody. -/
theorem run_signup (input : Signup) (world : World ν) (issues : settings.Issues world.wall) :
    let ran := (signup settings input).run surroundings world
    Enrols surroundings settings world ran.1 ran.2 := by
  have asked := Flow.run_askStore surroundings settings.limit prompt (.findByEmail input.email) world
  have still := world.still_asked surroundings
  simp only [World.storeWork] at asked
  rw [signup]
  cases found : (world.asked surroundings).registry.findByEmail input.email with
  | some user =>
      rw [found] at asked
      rw [Flow.run_andThen surroundings _ _ world _ _ asked, Flow.run_stop]
      exact .refused (.failure .emailTaken) _ still.registry still.issued.ge
        (by rw [still.issued]; exact Nat.le_succ _)
  | none =>
      rw [found] at asked
      rw [Flow.run_andThen surroundings _ _ world _ _ asked, Flow.run_ask]
      have hashes := (world.asked surroundings).still_answer surroundings (.hash input.password) rfl
      rcases hashing : (world.asked surroundings).answer surroundings (.hash input.password) with
        ⟨result, hashed⟩
      rw [hashing] at hashes
      have before := still.trans _ _ _ hashes
      refine .of_still surroundings settings _ _ before _ _ ?_
      cases result with
      | error failure =>
          rw [Flow.run_stop]
          exact .refused (.failure failure) hashed rfl (Nat.le_refl _) (Nat.le_succ _)
      | ok hash =>
          exact run_enrol surroundings settings prompt ⟨input.name, input.email, hash⟩ hashed
            (by rw [before.wall]; exact issues)

omit prompt in
theorem run_refreshAt_refused (limit : Nat) (presented : String) (now : Instant) (fault : Fault)
    (refused : (Token.verify settings.label presented settings.tokens.refreshSecret now :
      Outcome RefreshClaims) = .error fault) (world : World ν) :
    ((refreshAt settings.label settings.tokens limit presented now).run surroundings world).1 =
      .error fault := by
  simp only [refreshAt, refused]
  rfl

theorem run_refreshAt_verified (presented : String) (now : Instant) (claims : RefreshClaims)
    (verified : Token.verify settings.label presented settings.tokens.refreshSecret now =
      .ok claims) (world : World ν) :
    ((refreshAt settings.label settings.tokens settings.limit presented now).run surroundings
        world).1 =
      match world.registry.users.get? claims.subject with
      | none => .error (.failure .userNotFound)
      | some user => Token.issuePair settings.label user.principal settings.tokens now := by
  have looked := Flow.run_askStore surroundings settings.limit prompt (.findById claims.subject)
    world
  simp only [World.storeWork, World.asked_registry, Registry.findById, Outcome.ofExcept_ok]
    at looked
  simp only [refreshAt, verified]
  rw [Flow.run_andThen surroundings _ _ world _ _ looked]
  cases world.registry.users.get? claims.subject with
  | none => rfl
  | some user => rfl

end

end Account

end Gatehouse

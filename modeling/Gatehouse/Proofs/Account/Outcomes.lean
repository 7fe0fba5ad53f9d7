import Gatehouse.Account.Access
import Gatehouse.Proofs.Service.Runs
import Gatehouse.Proofs.Token.Issuing

/-!
# Outcomes of signing up and logging in

What one signup and one login come to in a world whose user store and hasher do
their work, by what the registry finds under the address.
-/

set_option autoImplicit false

namespace Gatehouse.Service

/-- The hash stands for this password and no other. -/
def Hasher.StandsFor (hasher : Hasher) (hash password : String) : Prop :=
  ∀ count other, hasher.compare count other hash = .ok (other == password)

/-- Hashing never fails, and every hash stands for the password that it was made of. -/
def Hasher.Faithful (hasher : Hasher) : Prop :=
  ∀ count password words position, ∃ hash,
    ((hasher.hash count password).run words position).1 = .ok hash ∧
      hasher.StandsFor hash password

end Gatehouse.Service

namespace Gatehouse.Account

open Service

variable {ν : Type} [Throttle.Arithmetic ν]

/-- Both tokens of a pair can be issued at the instant, and verify at once. -/
structure Settings.Issues (settings : Settings) (now : Instant) : Prop where
  access : Token.Issuable settings.label settings.tokens.accessSecret settings.tokens.accessHours now
  refresh :
    Token.Issuable settings.label settings.tokens.refreshSecret settings.tokens.refreshHours now

def Welcomes (settings : Settings) (now : Instant) (user : User) (result : Outcome Admission) :
    Prop :=
  ∃ pair, result = .ok ⟨user, pair⟩ ∧
    Token.Identifies settings.label settings.tokens now user.id pair

theorem run_issueFor (surroundings : Surroundings) (settings : Settings) (world : World ν)
    (issues : settings.Issues world.wall) (user : User) :
    ∃ result, (issueFor settings user).run surroundings world = (result, world) ∧
      Welcomes settings world.wall user result := by
  obtain ⟨pair, issued, signed⟩ := Token.issuePair_signed settings.label settings.tokens
    world.wall issues.access issues.refresh user.principal
  refine ⟨.ok ⟨user, pair⟩, ?_, pair, rfl, signed.identifies settings.label settings.tokens
    user.principal world.wall pair issues.access issues.refresh⟩
  rw [issueFor, Flow.run_ask]
  simp only [World.answer, Flow.run_done, issued, ok_bind]

theorem answer_hash (surroundings : Surroundings) (faithful : surroundings.hasher.Faithful)
    (password : String) (world : World ν) :
    ∃ hash later, world.answer surroundings (.hash password) = (.ok hash, later) ∧
      surroundings.hasher.StandsFor hash password ∧ later.registry = world.registry ∧
      later.wall = world.wall ∧ later.issued = world.issued := by
  obtain ⟨hash, hashed, stands⟩ := faithful world.hashed password surroundings.words world.drawn
  refine ⟨hash, (world.answer surroundings (.hash password)).2, ?_, stands, rfl, rfl, rfl⟩
  have first : (world.answer surroundings (.hash password)).1 = .ok hash := hashed
  rw [← first]

/-- Making the stand-in, if it is not there yet, changes nothing that an account is made of. -/
theorem answer_standIn (surroundings : Surroundings) (world : World ν) :
    ∃ hash later, world.answer surroundings .standIn = (hash, later) ∧
      later.registry = world.registry ∧ later.issued = world.issued := by
  have still := world.still_answer surroundings .standIn rfl
  exact ⟨_, _, rfl, still.registry, still.issued⟩

/-! ## Signing up -/

omit [Throttle.Arithmetic ν] in
theorem storeWork_create (surroundings : Surroundings) (new : NewUser) (world : World ν)
    (vacant : world.registry.byEmail.get? (Registry.emailKey new.email) = none) :
    ∃ later, World.storeWork surroundings (.create new) world =
        (.ok ⟨surroundings.ids world.issued, new.name, new.email, new.passwordHash, world.wall⟩,
          later) ∧
      later.registry =
        (world.registry.create (surroundings.ids world.issued) world.wall new).2 ∧
      later.wall = world.wall ∧ later.issued = world.issued + 1 := by
  refine ⟨(World.storeWork surroundings (.create new) world).2, ?_, rfl, rfl, rfl⟩
  simp only [World.storeWork, World.freshId, Registry.create, Table.contains, vacant]
  rfl

theorem run_signup_taken (surroundings : Surroundings) (settings : Settings)
    (prompt : surroundings.Prompt settings.limit) (input : Signup) (world : World ν) (user : User)
    (taken : world.registry.findByEmail input.email = some user) :
    ∃ later, (signup settings input).run surroundings world =
        (.error (.failure .emailTaken), later) ∧
      later.registry = world.registry ∧ later.issued = world.issued := by
  have asked := Flow.run_askStore surroundings settings.limit prompt (.findByEmail input.email) world
  simp only [World.storeWork, World.asked_registry, taken] at asked
  refine ⟨world.asked surroundings, ?_, world.asked_registry surroundings,
    world.asked_issued surroundings⟩
  rw [signup, Flow.run_andThen surroundings _ _ world _ _ asked, Flow.run_stop]

theorem run_signup_free (surroundings : Surroundings) (settings : Settings)
    (prompt : surroundings.Prompt settings.limit) (faithful : surroundings.hasher.Faithful)
    (input : Signup) (world : World ν) (issues : settings.Issues world.wall)
    (free : world.registry.findByEmail input.email = none)
    (vacant : world.registry.byEmail.get? (Registry.emailKey input.email) = none) :
    ∃ result later hash, (signup settings input).run surroundings world = (result, later) ∧
      surroundings.hasher.StandsFor hash input.password ∧
      Welcomes settings world.wall
        ⟨surroundings.ids world.issued, input.name, input.email, hash, world.wall⟩ result ∧
      later.registry = (world.registry.create (surroundings.ids world.issued) world.wall
        ⟨input.name, input.email, hash⟩).2 ∧
      later.issued = world.issued + 1 := by
  have asked := Flow.run_askStore surroundings settings.limit prompt (.findByEmail input.email) world
  simp only [World.storeWork, World.asked_registry, free] at asked
  obtain ⟨hash, hashed, answered, stands, sameRegistry, sameWall, sameIssued⟩ :=
    answer_hash surroundings faithful input.password (world.asked surroundings)
  rw [World.asked_registry] at sameRegistry
  rw [World.asked_wall] at sameWall
  rw [World.asked_issued] at sameIssued
  obtain ⟨created, works, registered, createdWall, createdIssued⟩ := storeWork_create surroundings
    ⟨input.name, input.email, hash⟩ (hashed.asked surroundings)
    (by rw [World.asked_registry, sameRegistry]; exact vacant)
  rw [World.asked_wall, sameWall] at createdWall
  rw [World.asked_registry, World.asked_issued, World.asked_wall, sameRegistry, sameIssued,
    sameWall] at registered
  rw [World.asked_issued, sameIssued] at createdIssued
  rw [World.asked_issued, World.asked_wall, sameIssued, sameWall] at works
  have makes := Flow.run_askStore surroundings settings.limit prompt
    (.create ⟨input.name, input.email, hash⟩) hashed
  rw [works] at makes
  obtain ⟨result, issued, welcomes⟩ := run_issueFor surroundings settings created
    (by rw [createdWall]; exact issues)
    ⟨surroundings.ids world.issued, input.name, input.email, hash, world.wall⟩
  rw [createdWall] at welcomes
  refine ⟨result, created, hash, ?_, stands, welcomes, registered, createdIssued⟩
  rw [signup, Flow.run_andThen surroundings _ _ world _ _ asked, Flow.run_ask, answered]
  simp only
  rw [Flow.run_andThen surroundings _ _ hashed _ _ makes, issued]

/-! ## Logging in -/

theorem login_open (settings : Settings) (without : settings.captchaRequired = false)
    (input : Login) : login settings input = checkCredentials settings input := by
  rw [login, checkCaptcha, without]
  rfl

theorem run_login_unknown (surroundings : Surroundings) (settings : Settings)
    (prompt : surroundings.Prompt settings.limit) (without : settings.captchaRequired = false)
    (input : Login) (world : World ν)
    (unknown : world.registry.findByEmail input.email = none) :
    ∃ later, (login settings input).run surroundings world =
        (.error (.failure .invalidCredentials), later) ∧
      later.registry = world.registry ∧ later.issued = world.issued := by
  have asked := Flow.run_askStore surroundings settings.limit prompt (.findByEmail input.email) world
  simp only [World.storeWork, World.asked_registry, unknown] at asked
  obtain ⟨hash, later, stoodIn, sameRegistry, sameIssued⟩ :=
    answer_standIn surroundings (world.asked surroundings)
  rw [World.asked_registry] at sameRegistry
  rw [World.asked_issued] at sameIssued
  rw [login_open settings without, checkCredentials,
    Flow.run_andThen surroundings _ _ world _ _ asked, rejectUnknown, Flow.run_ask, stoodIn]
  cases hash with
  | error failure => exact ⟨later, rfl, sameRegistry, sameIssued⟩
  | ok hash => exact ⟨_, rfl, sameRegistry, sameIssued⟩

theorem run_checkCredentials_known (surroundings : Surroundings) (settings : Settings)
    (prompt : surroundings.Prompt settings.limit) (input : Login) (world : World ν) (user : User)
    (known : world.registry.findByEmail input.email = some user) (right : Bool)
    (compared : ∀ count,
      surroundings.hasher.compare count input.password user.passwordHash = .ok right) :
    ∃ later, (checkCredentials settings input).run surroundings world =
        (if right then issueFor settings user else .stop .invalidCredentials).run surroundings
          later ∧
      later.registry = world.registry ∧ later.wall = world.wall ∧
      later.issued = world.issued := by
  have asked := Flow.run_askStore surroundings settings.limit prompt (.findByEmail input.email) world
  simp only [World.storeWork, World.asked_registry, known] at asked
  rw [checkCredentials, Flow.run_andThen surroundings _ _ world _ _ asked, Flow.run_ask]
  obtain ⟨clock, same⟩ := world.asked_clock surroundings
  simp only [World.answer, compared, same]
  cases right with
  | true => exact ⟨_, rfl, rfl, rfl, rfl⟩
  | false => exact ⟨_, rfl, rfl, rfl, rfl⟩

theorem run_login_known (surroundings : Surroundings) (settings : Settings)
    (prompt : surroundings.Prompt settings.limit) (without : settings.captchaRequired = false)
    (input : Login) (world : World ν) (user : User)
    (known : world.registry.findByEmail input.email = some user) (right : Bool)
    (compared : ∀ count,
      surroundings.hasher.compare count input.password user.passwordHash = .ok right) :
    ∃ later, (login settings input).run surroundings world =
        (if right then issueFor settings user else .stop .invalidCredentials).run surroundings
          later ∧
      later.registry = world.registry ∧ later.wall = world.wall ∧
      later.issued = world.issued := by
  rw [login_open settings without]
  exact run_checkCredentials_known surroundings settings prompt input world user known right
    compared

theorem run_login_wrong (surroundings : Surroundings) (settings : Settings)
    (prompt : surroundings.Prompt settings.limit) (without : settings.captchaRequired = false)
    (input : Login) (world : World ν) (user : User)
    (known : world.registry.findByEmail input.email = some user)
    (wrong : ∀ count,
      surroundings.hasher.compare count input.password user.passwordHash = .ok false) :
    ∃ later, (login settings input).run surroundings world =
        (.error (.failure .invalidCredentials), later) ∧
      later.registry = world.registry ∧ later.issued = world.issued := by
  obtain ⟨later, run, sameRegistry, -, sameIssued⟩ :=
    run_login_known surroundings settings prompt without input world user known false wrong
  exact ⟨later, run, sameRegistry, sameIssued⟩

theorem run_login_right (surroundings : Surroundings) (settings : Settings)
    (prompt : surroundings.Prompt settings.limit) (without : settings.captchaRequired = false)
    (input : Login) (world : World ν) (issues : settings.Issues world.wall) (user : User)
    (known : world.registry.findByEmail input.email = some user)
    (right : ∀ count,
      surroundings.hasher.compare count input.password user.passwordHash = .ok true) :
    ∃ result later, (login settings input).run surroundings world = (result, later) ∧
      Welcomes settings world.wall user result ∧
      later.registry = world.registry ∧ later.issued = world.issued := by
  obtain ⟨later, run, sameRegistry, sameWall, sameIssued⟩ :=
    run_login_known surroundings settings prompt without input world user known true right
  obtain ⟨result, issued, welcomes⟩ := run_issueFor surroundings settings later
    (by rw [sameWall]; exact issues) user
  rw [sameWall] at welcomes
  exact ⟨result, later, run.trans issued, welcomes, sameRegistry, sameIssued⟩

end Gatehouse.Account

import Gatehouse.Proofs.Account.Admissions
import Gatehouse.Proofs.Account.Refinement
import Gatehouse.Proofs.Token.Signable

/-!
# Signups that fail

A signup writes to the registry once, and all that is left after that is to sign
the pair of tokens.  So whatever fails before leaves the registry as it was, and
only settings under which no pair can be signed leave a user behind.
-/

set_option autoImplicit false

namespace Gatehouse.Account

open Service

section

variable (settings : Settings)

/-- What is left of a signup when the password is hashed. -/
def enrol (input : Signup) (hash : String) : Flow (Outcome Admission) :=
  (Flow.askStore settings.limit (.create ⟨input.name, input.email, hash⟩)).andThen
    fun user => issueFor settings user

/-- What is left of a signup when nobody was found under the address. -/
def proceed (input : Signup) : Flow (Outcome Admission) :=
  .ask (.hash input.password) fun
    | .error failure => .stop failure
    | .ok hash => enrol settings input hash

end

variable {ν : Type} [Throttle.Arithmetic ν] (surroundings : Surroundings) (settings : Settings)

/-! ## One signup, whatever the user store and the hasher do -/

theorem run_create_cases (new : NewUser) (world : World ν) :
    let ran := (Flow.askStore settings.limit (.create new)).run surroundings world
    ran.2.wall = world.wall ∧
      ((∃ fault, ran.1 = .error fault ∧ ran.2.registry = world.registry) ∨
        ∃ user : User, ran.1 = .ok user ∧ user.name = new.name ∧ user.email = new.email ∧
          world.registry.Gains user ran.2.registry) := by
  intro ran
  have asked : ran = (Flow.askStore settings.limit (.create new)).run surroundings world := rfl
  rw [Flow.askStore, Flow.run_ask, World.answer] at asked
  rcases World.under_cases (surroundings.store world.storeCalls) settings.limit
    { world with storeCalls := world.storeCalls + 1 }
    (World.storeWork surroundings (.create new)) with works | ⟨still, unanswered⟩
  · rw [works] at asked
    obtain ⟨clock, waited⟩ := World.wait_clock { world with storeCalls := world.storeCalls + 1 }
      (surroundings.store world.storeCalls).delay
    rw [waited] at asked
    simp only [World.storeWork, World.freshId] at asked
    rcases world.registry.create_gains (surroundings.ids world.issued) world.wall new with
      ⟨-, taken⟩ | ⟨after, created, gains⟩
    · rw [taken] at asked
      rw [asked]
      exact ⟨rfl, Or.inl ⟨_, rfl, rfl⟩⟩
    · rw [created] at asked
      rw [asked]
      exact ⟨rfl, Or.inr ⟨_, rfl, rfl, rfl, gains⟩⟩
  · rcases replied : (World.under (surroundings.store world.storeCalls) settings.limit
      { world with storeCalls := world.storeCalls + 1 }
      (World.storeWork surroundings (.create new))) with ⟨reply, later⟩
    rw [replied] at asked still unanswered
    rw [asked]
    rcases reply with ⟨failure | user⟩ | _
    · exact ⟨still.wall, Or.inl ⟨_, rfl, still.registry⟩⟩
    · exact absurd rfl (unanswered user)
    · exact ⟨still.wall, Or.inl ⟨_, rfl, still.registry⟩⟩

/-- Before it asks for the new user to be stored, a signup changes nothing. -/
theorem run_signup_cases (input : Signup) (world : World ν) :
    let ran := (signup settings input).run surroundings world
    (∃ fault, ran.1 = .error fault ∧ world.Still ran.2) ∨
      ∃ hash middle, world.Still middle ∧
        ran = (enrol settings input hash).run surroundings middle := by
  intro ran
  have runs : ran = (signup settings input).run surroundings world := rfl
  have looked := Flow.still_run surroundings _
    (Flow.quiet_askStore settings.limit (.findByEmail input.email) rfl) world
  rw [signup, Flow.andThen, Flow.run_bind] at runs
  rcases asked : (Flow.askStore settings.limit (.findByEmail input.email)).run surroundings world
    with ⟨found, middle⟩
  rw [asked] at runs looked
  rcases found with fault | _ | user
  · exact Or.inl ⟨fault, by rw [runs]; rfl, by rw [runs]; exact looked⟩
  · simp only [Flow.run_ask] at runs
    have hashed := middle.still_answer surroundings (.hash input.password) rfl
    rcases hashing : middle.answer surroundings (.hash input.password) with ⟨result, later⟩
    rw [hashing] at runs hashed
    cases result with
    | error failure =>
        exact Or.inl ⟨_, by rw [runs]; rfl, by rw [runs]; exact looked.trans _ _ _ hashed⟩
    | ok hash => exact Or.inr ⟨hash, later, looked.trans _ _ _ hashed, runs⟩
  · exact Or.inl ⟨_, by rw [runs]; rfl, by rw [runs]; exact looked⟩

theorem run_issueFor_eq (user : User) (world : World ν) :
    (issueFor settings user).run surroundings world =
      ((Token.issuePair settings.label user.principal settings.tokens world.wall).map
        (Admission.mk user), world) := by
  rw [issueFor, Flow.run_ask]
  simp only [World.answer, Flow.run_done]
  cases Token.issuePair settings.label user.principal settings.tokens world.wall with
  | error fault => rfl
  | ok pair => rfl

/-- A signup that fails has changed nothing, or it has stored the user and failed to sign a pair. -/
theorem registry_of_failed (input : Signup) (world later : World ν) (fault : Fault)
    (failed : (signup settings input).run surroundings world = (.error fault, later)) :
    later.registry = world.registry ∨
      ¬ Token.Signable settings.tokens world.wall ∧
        ∃ user : User, user.name = input.name ∧ user.email = input.email ∧
          world.registry.Gains user later.registry := by
  rcases run_signup_cases surroundings settings input world with
    ⟨other, -, still⟩ | ⟨hash, middle, still, ran⟩
  · rw [failed] at still
    exact Or.inl still.registry
  · rw [failed, enrol, Flow.andThen, Flow.run_bind] at ran
    obtain ⟨sameWall, stored⟩ := run_create_cases surroundings settings
      ⟨input.name, input.email, hash⟩ middle
    rcases asked : (Flow.askStore settings.limit
      (.create ⟨input.name, input.email, hash⟩)).run surroundings middle with ⟨result, after⟩
    rw [asked] at ran sameWall stored
    rcases stored with ⟨other, is, same⟩ | ⟨user, is, name, email, gains⟩
    · simp only at is same
      rw [is] at ran
      cases ran
      exact Or.inl (same.trans still.registry)
    · simp only at is sameWall name email gains
      rw [is] at ran
      simp only at ran
      rw [run_issueFor_eq] at ran
      obtain ⟨unsigned, rfl⟩ := Prod.mk.inj ran
      rw [sameWall, still.wall] at unsigned
      rw [still.registry] at gains
      refine Or.inr ⟨?_, user, name, email, gains⟩
      -- all that is left to do once the user is stored is to sign the pair
      intro signable
      obtain ⟨pair, signed⟩ := (Token.exists_pair_iff settings.label user.principal settings.tokens
        world.wall).mpr signable
      rw [signed] at unsigned
      cases unsigned

/-! ## Trying again -/

/-- Whatever goes wrong when the hasher hashes, it is no conflict. -/
def Peaceful (hasher : Hasher) : Prop :=
  ∀ count password words position failure,
    ((hasher.hash count password).run words position).1 = .error failure →
      failure.kind ≠ .conflict

theorem no_conflict_issueFor (user : User) (world : World ν) (failure : Failure)
    (failed : ((issueFor settings user).run surroundings world).1 = .error (.failure failure)) :
    failure.kind ≠ .conflict := by
  rw [run_issueFor_eq] at failed
  intro conflict
  cases signed : Token.issuePair settings.label user.principal settings.tokens world.wall with
  | ok pair =>
      rw [signed] at failed
      cases failed
  | error fault =>
      rw [signed] at failed
      cases failed
      rw [Token.kind_of_issuePair_error _ _ _ _ _ signed] at conflict
      cases conflict

section

variable (prompt : surroundings.Prompt settings.limit)

include prompt

theorem no_conflict_enrol (input : Signup) (hash : String) (world : World ν)
    (free : world.registry.byEmail.get? (Registry.emailKey input.email) = none)
    (failure : Failure)
    (failed : ((enrol settings input hash).run surroundings world).1 = .error (.failure failure)) :
    failure.kind ≠ .conflict := by
  obtain ⟨later, makes, -⟩ := run_create surroundings settings prompt
    ⟨input.name, input.email, hash⟩ world
  rcases world.registry.create_gains (surroundings.ids world.issued) world.wall
    ⟨input.name, input.email, hash⟩ with ⟨taken, -⟩ | ⟨after, created, -⟩
  · exact absurd free taken
  · rw [created] at makes
    rw [enrol, Flow.run_andThen surroundings _ _ world _ _ makes] at failed
    exact no_conflict_issueFor surroundings settings _ later failure failed

theorem no_conflict_of_free (peaceful : Peaceful surroundings.hasher) (input : Signup)
    (world : World ν)
    (free : world.registry.byEmail.get? (Registry.emailKey input.email) = none)
    (failure : Failure)
    (failed : ((signup settings input).run surroundings world).1 = .error (.failure failure)) :
    failure.kind ≠ .conflict := by
  have asked := Flow.run_askStore surroundings settings.limit prompt (.findByEmail input.email)
    world
  simp only [World.storeWork, World.asked_registry, Registry.findByEmail, free, Option.bind_none,
    Outcome.ofExcept_ok] at asked
  have hashes := (world.asked surroundings).still_answer surroundings (.hash input.password) rfl
  have peace := peaceful (world.asked surroundings).hashed input.password surroundings.words
    (world.asked surroundings).drawn
  rw [signup, Flow.run_andThen surroundings _ _ world _ _ asked, Flow.run_ask] at failed
  rcases hashing : (world.asked surroundings).answer surroundings (.hash input.password) with
    ⟨result, hashed⟩
  have same : ((surroundings.hasher.hash (world.asked surroundings).hashed input.password).run
      surroundings.words (world.asked surroundings).drawn).1 = result :=
    congrArg Prod.fst hashing
  rw [hashing] at failed hashes
  rw [same] at peace
  cases result with
  | error cause =>
      simp only [Flow.run_stop, Except.error.injEq, Fault.failure.injEq] at failed
      rw [← failed]
      exact peace cause rfl
  | ok hash =>
      refine no_conflict_enrol surroundings settings prompt input hash hashed ?_ failure failed
      rw [hashes.registry, World.asked_registry]
      exact free

end

/-! ## Any failed signup -/

/-- A signup that fails leaves the registry exactly as it was, unless no pair can be signed under
the settings at this instant: then the user may have been stored, and nothing else has changed.  If
the registry is as it was and the address is free, the same signup meets no conflict later. -/
theorem failed_signup (input : Signup) (world later : World ν) (fault : Fault)
    (failed : (signup settings input).run surroundings world = (.error fault, later)) :
    (later.registry = world.registry ∨
      ¬ Token.Signable settings.tokens world.wall ∧
        ∃ user : User, user.name = input.name ∧ user.email = input.email ∧
          world.registry.Gains user later.registry) ∧
    (later.registry = world.registry →
      world.registry.byEmail.get? (Registry.emailKey input.email) = none →
      surroundings.Prompt settings.limit → Peaceful surroundings.hasher →
      ∀ again : World ν, again.registry = later.registry → ∀ failure,
        ((signup settings input).run surroundings again).1 = .error (.failure failure) →
          failure.kind ≠ .conflict) := by
  refine ⟨registry_of_failed surroundings settings input world later fault failed, ?_⟩
  intro unchanged free prompt peaceful again same failure refused
  refine no_conflict_of_free surroundings settings prompt peaceful input again ?_ failure refused
  rw [same, unchanged]
  exact free

/-- Hashing fails, nobody has joined, and the next try goes through the store. -/
theorem failed_signup_unhashed :
    let surroundings : Surroundings :=
      { trial with hasher := trial.hasher.failingHash (.inputOutput "no entropy") }
    let input : Signup := ⟨"ada", "ada@example.com", "lace"⟩
    let world : World Rat := .start .epoch 0 ⟨1, 0, .empty⟩
    let ran := (signup trialSettings input).run surroundings world
    ran.1 = .error (.failure (.inputOutput "no entropy")) ∧
      ran.2.registry = world.registry ∧
      ∀ again : World Rat, again.registry = ran.2.registry → ∀ failure,
        ((signup trialSettings input).run surroundings again).1 = .error (.failure failure) →
          failure.kind ≠ .conflict := by
  intro surroundings input world ran
  have prompt : surroundings.Prompt trialSettings.limit := fun count => ⟨Nat.zero_le _, rfl⟩
  have peaceful : Peaceful surroundings.hasher := by
    intro count password words position failure fails
    have same : (.error (.inputOutput "no entropy") : Except Failure String) = .error failure :=
      fails
    cases same
    decide
  have refused : ran = (.error (.failure (.inputOutput "no entropy")), ran.2) := rfl
  obtain ⟨kept, retried⟩ := failed_signup surroundings trialSettings input world ran.2 _ refused
  have unchanged : ran.2.registry = world.registry := by
    rcases kept with same | ⟨unsigned, -⟩
    · exact same
    · exact absurd ⟨by decide, by decide, by decide, by decide⟩ unsigned
  exact ⟨rfl, unchanged, retried unchanged rfl prompt peaceful⟩

/-- With a lifetime whose end is out of range the signup fails, but the user has been stored, and
the same signup runs into that user from then on. -/
theorem failed_signup_stores_user :
    let settings : Settings := { trialSettings with
      tokens := ⟨"access", "refresh", 4294967295, 24⟩ }
    let input : Signup := ⟨"frank", "frank@example.com", "secret123"⟩
    let world : World Rat := .start .epoch 0 ⟨1, 0, .empty⟩
    let first := (signup settings input).run trial world
    let second := (signup settings input).run trial first.2
    first.1 = .error (.failure (.lifetimeOutOfRange 4294967295)) ∧
      first.2.registry ≠ world.registry ∧
      second.1 = .error (.failure .emailTaken) := by
  intro settings input world first second
  have stored : first.2.registry.size = 1 := by decide
  refine ⟨by decide, ?_, by decide⟩
  intro same
  rw [same] at stored
  cases stored

end Gatehouse.Account

import Gatehouse.Proofs.Account.Outcomes
import Gatehouse.Proofs.Account.Roll
import Gatehouse.Proofs.Table

/-!
# Accounts are a plain registry

The two tables of the registry, the hashes in it and the flows around it answer
every visit as the roll does.  `Roll.Describes` ties the tables to the roll; every
visit keeps it.
-/

set_option autoImplicit false

namespace Gatehouse.Account

open Service

/-- The user is the member that stands under this key. -/
structure Keeps (hasher : Hasher) (key : String) (member : Member) (user : User) : Prop where
  id : user.id = member.id
  name : user.name = member.name
  key : Registry.emailKey user.email = key
  stands : hasher.StandsFor user.passwordHash member.password

/-- The registry holds the members of the roll and nobody else, when so many identifiers have been
given out. -/
structure Roll.Describes (surroundings : Surroundings) (roll : Roll) (registry : Registry)
    (issued : Nat) : Prop where
  joined : roll.joined = issued
  index : ∀ key, registry.byEmail.get? key = (roll.members key).map Member.id
  users : ∀ key member, roll.members key = some member →
    ∃ user, registry.users.get? member.id = some user ∧
      Keeps surroundings.hasher key member user
  listed : ∀ id user, registry.users.get? id = some user →
    ∃ member, roll.members (Registry.emailKey user.email) = some member ∧ member.id = id
  given : ∀ key member, roll.members key = some member →
    ∃ position, position < roll.joined ∧ surroundings.ids position = member.id

namespace Roll.Describes

variable (surroundings : Surroundings) (roll : Roll) (registry : Registry) (issued : Nat)

theorem empty : (Roll.empty issued).Describes surroundings .empty issued where
  joined := rfl
  index _ := rfl
  users _ _ found := by cases found
  listed _ _ found := by cases found
  given _ _ found := by cases found

/-! ## Looking up an address -/

variable (describes : roll.Describes surroundings registry issued)

include describes

theorem findByEmail_none (email : String)
    (absent : roll.members (Registry.emailKey email) = none) :
    registry.findByEmail email = none ∧
      registry.byEmail.get? (Registry.emailKey email) = none := by
  have vacant := describes.index (Registry.emailKey email)
  rw [absent, Option.map_none] at vacant
  exact ⟨by rw [Registry.findByEmail, vacant, Option.bind_none], vacant⟩

theorem findByEmail_some (email : String) (member : Member)
    (present : roll.members (Registry.emailKey email) = some member) :
    ∃ user, registry.findByEmail email = some user ∧
      Keeps surroundings.hasher (Registry.emailKey email) member user := by
  have held := describes.index (Registry.emailKey email)
  rw [present, Option.map_some] at held
  obtain ⟨user, found, keeps⟩ := describes.users _ member present
  refine ⟨user, ?_, keeps⟩
  rw [Registry.findByEmail, held, Option.bind_some, Registry.findById, found]

/-! ## Joining and leaving -/

theorem join (bound : Nat) (distinct : surroundings.Distinct bound) (room : issued < bound)
    (key : String) (absent : roll.members key = none) (member : Member) (user : User)
    (fresh : member.id = surroundings.ids issued)
    (keeps : Keeps surroundings.hasher key member user) :
    Roll.Describes surroundings
      ⟨fun other => if other = key then some member else roll.members other, roll.joined + 1⟩
      ⟨registry.users.put member.id user, registry.byEmail.put key member.id⟩ (issued + 1) := by
  have sameCount := describes.joined
  -- nobody has the new identifier yet
  have unused : ∀ other found, roll.members other = some found → found.id ≠ member.id := by
    intro other found present same
    obtain ⟨position, early, given⟩ := describes.given other found present
    have equal := distinct position issued (by omega) room (given.trans (same.trans fresh))
    omega
  refine ⟨by simp [sameCount], ?_, ?_, ?_, ?_⟩
  · intro other
    rw [Table.get?_put, describes.index other]
    by_cases same : other = key
    · simp [same]
    · simp [same]
  · intro other found present
    by_cases same : other = key
    · simp only [same, if_true, Option.some.injEq] at present
      subst present
      exact ⟨user, by rw [Table.get?_put, if_pos rfl], same ▸ keeps⟩
    · simp only [same, if_false] at present
      obtain ⟨old, there, keeps⟩ := describes.users other found present
      refine ⟨old, ?_, keeps⟩
      rw [Table.get?_put, if_neg (unused other found present), there]
  · intro id found held
    rw [Table.get?_put] at held
    split at held
    · rename_i same
      obtain rfl := Option.some.inj held
      exact ⟨member, by simp [keeps.key], same.symm⟩
    · obtain ⟨old, present, same⟩ := describes.listed id found held
      refine ⟨old, ?_, same⟩
      have differs : Registry.emailKey found.email ≠ key := by
        intro equal
        rw [equal, absent] at present
        cases present
      simp [differs, present]
  · intro other found present
    by_cases same : other = key
    · simp only [same, if_true, Option.some.injEq] at present
      subst present
      exact ⟨issued, by dsimp only; omega, fresh.symm⟩
    · simp only [same, if_false] at present
      obtain ⟨position, early, given⟩ := describes.given other found present
      exact ⟨position, by dsimp only; omega, given⟩

theorem key_unique (key other : String) (member found : Member)
    (present : roll.members key = some member) (there : roll.members other = some found)
    (same : member.id = found.id) : key = other := by
  obtain ⟨user, held, keeps⟩ := describes.users key member present
  obtain ⟨also, alike, keepsAlso⟩ := describes.users other found there
  rw [← same, held] at alike
  obtain rfl := Option.some.inj alike
  exact keeps.key.symm.trans keepsAlso.key

/-- A member with the identifier of a user stands under the key of the user's address. -/
theorem id_iff_key (id : Uuid) (user : User) (found : registry.users.get? id = some user)
    (key : String) (member : Member) (present : roll.members key = some member) :
    member.id = id ↔ key = Registry.emailKey user.email := by
  obtain ⟨leaver, there, sameId⟩ := describes.listed id user found
  constructor
  · intro same
    exact describes.key_unique surroundings roll registry issued key _ member leaver present
      there (same.trans sameId.symm)
  · intro same
    rw [same, there] at present
    exact (Option.some.inj present) ▸ sameId

theorem filter_absent (id : Uuid) (absent : registry.users.get? id = none) :
    (fun key => (roll.members key).filter fun member => member.id != id) = roll.members := by
  funext key
  cases present : roll.members key with
  | none => rfl
  | some member =>
      obtain ⟨user, held, -⟩ := describes.users key member present
      have other : member.id ≠ id := by
        intro same
        rw [same, absent] at held
        cases held
      simp [other]

theorem leave (id : Uuid) :
    Roll.Describes surroundings
      { roll with members := fun key => (roll.members key).filter fun member => member.id != id }
      (registry.remove id).2 issued := by
  rw [Registry.remove]
  cases found : registry.users.get? id with
  | none =>
      rw [describes.filter_absent surroundings roll registry issued id found]
      exact describes
  | some user =>
      have only := describes.id_iff_key surroundings roll registry issued id user found
      refine ⟨describes.joined, ?_, ?_, ?_, ?_⟩
      · intro key
        rw [Table.get?_erase, describes.index key]
        dsimp only
        cases present : roll.members key with
        | none => simp
        | some member =>
            have here := only key member present
            by_cases same : key = Registry.emailKey user.email
            · rw [if_pos same]
              simp [Option.filter, here.mpr same]
            · have other : member.id ≠ id := fun equal => same (here.mp equal)
              rw [if_neg same]
              simp [Option.filter, other]
      · intro key member present
        obtain ⟨inside, stays⟩ := Option.filter_eq_some_iff.mp present
        obtain ⟨held, there, keeps⟩ := describes.users key member inside
        refine ⟨held, ?_, keeps⟩
        rw [Table.get?_erase, if_neg (by simpa using stays), there]
      · intro other held present
        rw [Table.get?_erase] at present
        split at present
        · cases present
        · rename_i differs
          obtain ⟨member, inside, same⟩ := describes.listed other held present
          refine ⟨member, ?_, same⟩
          simp [inside, same, differs]
      · intro key member present
        obtain ⟨inside, -⟩ := Option.filter_eq_some_iff.mp present
        exact describes.given key member inside

end Roll.Describes

/-! ## One visit -/

/-- What the services are given: challenges are off, the store answers, and hashes are faithful. -/
structure Sound (surroundings : Surroundings) (settings : Settings) : Prop where
  without : settings.captchaRequired = false
  prompt : surroundings.Prompt settings.limit
  faithful : surroundings.hasher.Faithful

section

variable {ν : Type} [Throttle.Arithmetic ν]

theorem Welcomes.admits (settings : Settings) (now : Instant) (hasher : Hasher) (key : String)
    (member : Member) (user : User) (result : Outcome Admission)
    (welcomes : Welcomes settings now user result) (keeps : Keeps hasher key member user) :
    Admits settings now key member result := by
  obtain ⟨pair, rfl, identifies⟩ := welcomes
  rw [keeps.id] at identifies
  exact ⟨⟨user, pair⟩, rfl, keeps.id, keeps.name, keeps.key, identifies⟩

variable (surroundings : Surroundings) (settings : Settings) (sound : Sound surroundings settings)
  (roll : Roll) (world : World ν)
  (describes : roll.Describes surroundings world.registry world.issued)

include sound describes

theorem respond_signup (bound : Nat) (distinct : surroundings.Distinct bound)
    (room : world.issued < bound) (now : Instant) (issues : settings.Issues now)
    (input : Signup) :
    let response := respond surroundings settings world ⟨.signup input, now⟩
    roll.Explains settings surroundings.ids now (.signup input) response.1 ∧
      (roll.after surroundings.ids (.signup input)).Describes surroundings response.2.registry
        response.2.issued := by
  dsimp only
  cases present : roll.members (Registry.emailKey input.email) with
  | some member =>
      obtain ⟨user, found, -⟩ := describes.findByEmail_some surroundings roll world.registry
        world.issued input.email member present
      obtain ⟨later, run, sameRegistry, sameIssued⟩ := run_signup_taken surroundings settings
        sound.prompt input { world with wall := now } user found
      rw [respond]
      simp only [run, Roll.Explains, Roll.after, present, sameRegistry, sameIssued]
      exact ⟨⟨.emailTaken, rfl, rfl⟩, describes⟩
  | none =>
      obtain ⟨free, vacant⟩ := describes.findByEmail_none surroundings roll world.registry
        world.issued input.email present
      obtain ⟨result, later, hash, run, stands, welcomes, registered, issued⟩ :=
        run_signup_free surroundings settings sound.prompt sound.faithful input
          { world with wall := now } issues free vacant
      have keeps : Keeps surroundings.hasher (Registry.emailKey input.email)
          ⟨surroundings.ids world.issued, input.name, input.password⟩
          ⟨surroundings.ids world.issued, input.name, input.email, hash, now⟩ :=
        ⟨rfl, rfl, rfl, stands⟩
      rw [respond]
      simp only [run, Roll.Explains, Roll.after, present]
      rw [describes.joined]
      refine ⟨welcomes.admits settings now surroundings.hasher _ _ _ _ keeps, ?_⟩
      have joins := describes.join surroundings roll world.registry world.issued bound distinct
        room _ present _ _ rfl keeps
      rw [describes.joined] at joins
      have tables : later.registry =
          ⟨world.registry.users.put (surroundings.ids world.issued)
              ⟨surroundings.ids world.issued, input.name, input.email, hash, now⟩,
            world.registry.byEmail.put (Registry.emailKey input.email)
              (surroundings.ids world.issued)⟩ := by
        rw [registered, Registry.create, Table.contains, vacant]
        rfl
      rw [tables, issued]
      exact joins

theorem respond_login (now : Instant) (issues : settings.Issues now) (input : Login) :
    let response := respond surroundings settings world ⟨.login input, now⟩
    roll.Explains settings surroundings.ids now (.login input) response.1 ∧
      (roll.after surroundings.ids (.login input)).Describes surroundings response.2.registry
        response.2.issued := by
  dsimp only
  cases present : roll.members (Registry.emailKey input.email) with
  | none =>
      obtain ⟨unknown, -⟩ := describes.findByEmail_none surroundings roll world.registry
        world.issued input.email present
      obtain ⟨later, run, sameRegistry, sameIssued⟩ := run_login_unknown surroundings settings
        sound.prompt sound.without input { world with wall := now } unknown
      rw [respond]
      simp only [run, Roll.Explains, Roll.after, present, sameRegistry, sameIssued]
      exact ⟨⟨.invalidCredentials, rfl, rfl⟩, describes⟩
  | some member =>
      obtain ⟨user, known, keeps⟩ := describes.findByEmail_some surroundings roll world.registry
        world.issued input.email member present
      by_cases right : input.password = member.password
      · obtain ⟨result, later, run, welcomes, sameRegistry, sameIssued⟩ :=
          run_login_right surroundings settings sound.prompt sound.without input
            { world with wall := now } issues user known
            (fun count => by rw [keeps.stands, right, beq_self_eq_true])
        rw [respond]
        simp only [run, Roll.Explains, Roll.after, present, if_pos right, sameRegistry,
          sameIssued]
        exact ⟨welcomes.admits settings now surroundings.hasher _ _ _ _ keeps, describes⟩
      · obtain ⟨later, run, sameRegistry, sameIssued⟩ := run_login_wrong surroundings settings
          sound.prompt sound.without input { world with wall := now } user known
          (fun count => by rw [keeps.stands, beq_false_of_ne right])
        rw [respond]
        simp only [run, Roll.Explains, Roll.after, present, if_neg right, sameRegistry,
          sameIssued]
        exact ⟨⟨.invalidCredentials, rfl, rfl⟩, describes⟩

omit sound in
theorem respond_remove (now : Instant) (id : Uuid) :
    let response := respond surroundings settings world ⟨.remove id, now⟩
    roll.Explains settings surroundings.ids now (.remove id) response.1 ∧
      (roll.after surroundings.ids (.remove id)).Describes surroundings response.2.registry
        response.2.issued := by
  have left := describes.leave surroundings roll world.registry world.issued id
  refine ⟨?_, left⟩
  simp only [respond, Registry.remove]
  cases found : world.registry.users.get? id with
  | none =>
      intro key member present same
      obtain ⟨user, held, -⟩ := describes.users key member present
      rw [same, found] at held
      cases held
  | some user =>
      obtain ⟨member, present, same⟩ := describes.listed id user found
      obtain ⟨also, held, keeps⟩ := describes.users _ member present
      rw [same, found] at held
      obtain rfl := Option.some.inj held
      exact ⟨member, present, same, keeps.id.trans same, keeps.name⟩

/-- A visit is answered as the roll says, and the registry goes on as the roll does. -/
theorem respond_explains (bound : Nat) (distinct : surroundings.Distinct bound)
    (room : world.issued < bound) (visit : Visit) (issues : settings.Issues visit.now) :
    let response := respond surroundings settings world visit
    roll.Explains settings surroundings.ids visit.now visit.request response.1 ∧
      (roll.after surroundings.ids visit.request).Describes surroundings response.2.registry
        response.2.issued := by
  obtain ⟨request, now⟩ := visit
  cases request with
  | signup input =>
      exact respond_signup surroundings settings sound roll world describes bound distinct room now
        issues input
  | login input =>
      exact respond_login surroundings settings sound roll world describes now issues input
  | remove id => exact respond_remove surroundings settings roll world describes now id

/-! ## Any number of visits -/

theorem worldAfter_described (bound : Nat) (distinct : surroundings.Distinct bound)
    (visits : List Visit) (room : world.issued + visits.length ≤ bound)
    (issues : ∀ visit ∈ visits, settings.Issues visit.now) :
    (roll.afterAll surroundings.ids visits).Describes surroundings
        (worldAfter surroundings settings world visits).registry
        (worldAfter surroundings settings world visits).issued ∧
      (worldAfter surroundings settings world visits).issued ≤ world.issued + visits.length := by
  induction visits generalizing roll world with
  | nil => exact ⟨describes, Nat.le_refl _⟩
  | cons visit visits ih =>
      rw [List.length_cons] at room
      have step := (respond_explains surroundings settings sound roll world describes bound distinct
        (by omega) visit (issues visit (by simp))).2
      have taken := roll.joined_after_le surroundings.ids visit.request
      rw [step.joined, describes.joined] at taken
      obtain ⟨described, few⟩ := ih _ _ step (by omega)
        fun later inside => issues later (by simp [inside])
      refine ⟨described, ?_⟩
      rw [List.length_cons]
      exact Nat.le_trans few (by omega)

end

/-- After any visits to an empty registry, the next visit is answered as a plain registry of
addresses says: signing up works for a free address and no other, logging in with the password of
the member and no other, and whoever is removed leaves the address free; every pair that is
returned verifies at once for the identifier of that member. -/
theorem accounts_refine_roll {ν : Type} [Throttle.Arithmetic ν] (surroundings : Surroundings)
    (settings : Settings) (sound : Sound surroundings settings) (world : World ν)
    (start : world.registry = .empty) (visits : List Visit) (visit : Visit)
    (distinct : surroundings.Distinct (world.issued + (visits.length + 1)))
    (issues : ∀ other ∈ visit :: visits, settings.Issues other.now) :
    ((Roll.empty world.issued).afterAll surroundings.ids visits).Explains settings
      surroundings.ids visit.now visit.request
      (respond surroundings settings (worldAfter surroundings settings world visits) visit).1 := by
  have begun : (Roll.empty world.issued).Describes surroundings world.registry world.issued := by
    rw [start]
    exact Roll.Describes.empty surroundings world.issued
  obtain ⟨described, few⟩ := worldAfter_described surroundings settings sound _ world begun _
    distinct visits (by omega) fun other inside => issues other (List.mem_cons_of_mem _ inside)
  exact (respond_explains surroundings settings sound _ _ described _ distinct (by omega) visit
    (issues visit List.mem_cons_self)).1

/-- A service for trying things out: nothing fails, passwords stay readable, and identifiers count
up from zero. -/
def trial : Surroundings :=
  ⟨.healthy, .healthy, true, .plain "plain:", fun _ => 0, fun position => ⟨.ofNat 128 position⟩⟩

def trialSettings : Settings :=
  ⟨"Bearer ", ⟨"access", "refresh", 1, 2⟩, ⟨120, 40, 1000⟩, false, 1000⟩

theorem trial_sound : Sound trial trialSettings := by
  refine ⟨rfl, fun count => ⟨Nat.zero_le _, rfl⟩, ?_⟩
  intro count password words position
  refine ⟨"plain:" ++ password, rfl, fun later other => ?_⟩
  have same : ("plain:" ++ other == "plain:" ++ password) = (other == password) := by
    rw [Bool.eq_iff_iff, beq_iff_eq, beq_iff_eq, String.append_right_inj]
  exact congrArg Except.ok same

theorem trialSettings_issues : trialSettings.Issues .epoch := by
  have front : ∀ char, trialSettings.label.toList.head? = some char →
      Text.isBlank char = false := by
    intro char first
    cases first
    decide
  exact ⟨⟨front, by decide, by decide, by decide, by decide⟩,
    ⟨front, by decide, by decide, by decide, by decide⟩⟩

/-- Somebody signs up, spells the address in capitals at the next login, and is let in under the
identifier of the signup. -/
theorem accounts_refine_roll_capitals :
    let world : World Rat := .start .epoch 0 ⟨1, 0, .empty⟩
    let visits : List Visit := [⟨.signup ⟨"ada", "ada@example.com", "lace"⟩, .epoch⟩]
    let visit : Visit := ⟨.login ⟨"ADA@example.com", "lace", none⟩, .epoch⟩
    Sound trial trialSettings ∧ world.registry = .empty ∧
      trial.Distinct (world.issued + (visits.length + 1)) ∧
      (∀ other ∈ visit :: visits, trialSettings.Issues other.now) ∧
      ∃ admission, (respond trial trialSettings (worldAfter trial trialSettings world visits)
        visit).1 = .admission (.ok admission) ∧ admission.user.id = trial.ids 0 := by
  intro world visits visit
  have distinct : trial.Distinct 2 := by
    intro one other first second same
    have values := congrArg (fun id => id.value.toNat) same
    simp only [trial, BitVec.toNat_ofNat] at values
    omega
  have issues : ∀ other ∈ visit :: visits, trialSettings.Issues other.now := by
    simp [visits, visit, trialSettings_issues]
  have refined := accounts_refine_roll trial trialSettings trial_sound world rfl visits visit
    distinct issues
  have sameKey : Registry.emailKey "ADA@example.com" = Registry.emailKey "ada@example.com" := by
    decide
  have present : ((Roll.empty world.issued).afterAll trial.ids visits).members
      (Registry.emailKey "ADA@example.com") = some ⟨trial.ids 0, "ada", "lace"⟩ := by
    rw [sameKey]
    simp only [visits, Roll.afterAll, List.foldl_cons, List.foldl_nil, Roll.after, Roll.empty,
      if_pos]
    rfl
  refine ⟨trial_sound, rfl, distinct, issues, ?_⟩
  generalize (respond trial trialSettings (worldAfter trial trialSettings world visits) visit).1
    = response at refined ⊢
  cases response with
  | removal found => exact refined.elim
  | admission result =>
      simp only [visit, Roll.Explains, present, if_pos] at refined
      obtain ⟨admission, rfl, sameId, -⟩ := refined
      exact ⟨admission, rfl, sameId⟩

end Gatehouse.Account

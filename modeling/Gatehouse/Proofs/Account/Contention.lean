import Gatehouse.Proofs.Account.FailedSignups
import Gatehouse.Proofs.Service.Turns

/-!
# Signups side by side

Signups that look up one address at the same time may all find it free.  What
settles the matter is the registry, which adds a user and checks the address in
one call: whoever gets there first has won, and everybody who gets there later is
turned away.
-/

set_option autoImplicit false

namespace Gatehouse

namespace Registry

/-- Nobody stands under the address, and the index does not know it. -/
structure Lacks (registry : Registry) (key : String) : Prop where
  index : registry.byEmail.get? key = none
  users : ∀ id user, registry.users.get? id = some user → emailKey user.email ≠ key

/-- Nobody but this user stands under the address, and the index leads to the user. -/
structure Holds (registry : Registry) (key : String) (user : User) : Prop where
  index : registry.byEmail.get? key = some user.id
  users : ∀ id other, registry.users.get? id = some other ∧ emailKey other.email = key ↔
    id = user.id ∧ other = user

theorem Gains.lacks (before after : Registry) (user : User) (gains : before.Gains user after)
    (key : String) (lacks : before.Lacks key) (apart : emailKey user.email ≠ key) :
    after.Lacks key := by
  obtain ⟨-, rfl⟩ := gains
  constructor
  · rw [Table.get?_put, if_neg (Ne.symm apart)]
    exact lacks.index
  · intro id other found
    rw [Table.get?_put] at found
    split at found
    · cases found
      exact apart
    · exact lacks.users id other found

theorem Gains.holds (before after : Registry) (user : User) (gains : before.Gains user after)
    (lacks : before.Lacks (emailKey user.email)) : after.Holds (emailKey user.email) user := by
  obtain ⟨-, rfl⟩ := gains
  constructor
  · rw [Table.get?_put, if_pos rfl]
  · intro id other
    rw [Table.get?_put]
    by_cases same : id = user.id
    · rw [if_pos same]
      constructor
      · rintro ⟨found, -⟩
        exact ⟨same, (Option.some.inj found).symm⟩
      · rintro ⟨-, rfl⟩
        exact ⟨rfl, rfl⟩
    · rw [if_neg same]
      constructor
      · rintro ⟨found, owns⟩
        exact absurd owns (lacks.users id other found)
      · rintro ⟨equal, -⟩
        exact absurd equal same

theorem Holds.gains (before after : Registry) (key : String) (user : User)
    (holds : before.Holds key user) (joiner : User) (gains : before.Gains joiner after)
    (fresh : joiner.id ≠ user.id) : after.Holds key user := by
  obtain ⟨free, rfl⟩ := gains
  have apart : emailKey joiner.email ≠ key := by
    intro same
    rw [same, holds.index] at free
    cases free
  constructor
  · rw [Table.get?_put, if_neg (Ne.symm apart)]
    exact holds.index
  · intro id other
    rw [← holds.users id other, Table.get?_put]
    by_cases same : id = joiner.id
    · rw [if_pos same]
      constructor
      · rintro ⟨found, owns⟩
        cases found
        exact absurd owns apart
      · intro held
        obtain ⟨equal, -⟩ := (holds.users id other).mp held
        exact absurd (same.symm.trans equal) fresh
    · rw [if_neg same]

end Registry

namespace Account

open Service

variable {ν : Type} (surroundings : Surroundings) (settings : Settings)

/-! ## The steps of a signup -/

/-- A signup that has not yet asked for its user to be stored. -/
inductive Contending (input : Signup) : Flow (Outcome Admission) → Prop
  | begun : Contending input (signup settings input)
  | unhashed : Contending input (proceed settings input)
  | unstored (hash : String) : Contending input (enrol settings input hash)

theorem within_signup (input : Signup) : (signup settings input).Within 4 := by
  refine Flow.Within.andThen _ _ 1 3 (Flow.within_askStore _ _) fun found => ?_
  cases found with
  | some user => exact Flow.within_done _ 3
  | none =>
      intro result
      cases result with
      | error failure => exact Flow.within_done _ 2
      | ok hash =>
          refine Flow.Within.andThen _ _ 1 1 (Flow.within_askStore _ _) fun user => ?_
          exact fun now => Flow.within_done _ 0

/-! ## What a turn comes to -/

/-- What a turn of a contending signup comes to. -/
inductive Moves (input : Signup) (world : World ν) : Flow (Outcome Admission) → World ν → Prop
  | goesOn (flow : Flow (Outcome Admission)) (later : World ν)
      (contends : Contending settings input flow) (still : world.Still later) :
      Moves input world flow later
  | refused (later : World ν) (held : world.registry.byEmail.get? (Registry.emailKey input.email) ≠
        none) (registry : later.registry = world.registry) (issued : world.issued ≤ later.issued) :
      Moves input world (.stop .emailTaken) later
  | joins (user : User) (later : World ν) (name : user.name = input.name)
      (email : user.email = input.email) (fresh : user.id = surroundings.ids world.issued)
      (gains : world.registry.Gains user later.registry) (issued : world.issued < later.issued) :
      Moves input world (issueFor settings user) later

/-- Nobody has joined since, or one user under the next identifier. -/
def Grows (before after : World ν) : Prop :=
  before.issued ≤ after.issued ∧
    (after.registry = before.registry ∨
      ∃ user, user.id = surroundings.ids before.issued ∧ before.issued < after.issued ∧
        before.registry.Gains user after.registry)

/-- The user has been stored under the address, and as long as no identifier has come up twice
nobody else has. -/
structure Settled (key : String) (user : User) (world : World ν) : Prop where
  index : world.registry.byEmail.get? key = some user.id
  given : ∃ position, position < world.issued ∧ surroundings.ids position = user.id
  holds : surroundings.Distinct world.issued → world.registry.Holds key user

theorem Settled.grows (key : String) (user : User) (before after : World ν)
    (settled : Settled surroundings key user before) (grows : Grows surroundings before after) :
    Settled surroundings key user after := by
  obtain ⟨issued, same | ⟨joiner, next, more, gains⟩⟩ := grows
  · obtain ⟨position, early, is⟩ := settled.given
    refine ⟨by rw [same]; exact settled.index, ⟨position, by omega, is⟩, fun distinct => ?_⟩
    rw [same]
    exact settled.holds (distinct.mono _ _ _ issued)
  · obtain ⟨position, early, is⟩ := settled.given
    have free := gains.1
    have becomes := gains.2
    refine ⟨?_, ⟨position, by omega, is⟩, fun distinct => ?_⟩
    · rw [becomes, Table.get?_put, if_neg]
      · exact settled.index
      · intro same
        rw [← same, settled.index] at free
        cases free
    · refine (settled.holds (distinct.mono _ _ _ issued)).gains _ _ key user joiner gains ?_
      intro equal
      -- the identifier is one that has been handed out before
      rw [next, ← is] at equal
      have late := distinct _ _ more (by omega) equal
      omega

theorem Moves.grows (input : Signup) (world later : World ν) (flow : Flow (Outcome Admission))
    (moves : Moves surroundings settings input world flow later) :
    Grows surroundings world later := by
  cases moves with
  | goesOn flow later contends still => exact ⟨still.issued.ge, Or.inl still.registry⟩
  | refused later held registry issued => exact ⟨issued, Or.inl registry⟩
  | joins user later name email fresh gains issued =>
      exact ⟨Nat.le_of_lt issued, Or.inr ⟨user, fresh, issued, gains⟩⟩

theorem Moves.underway (input : Signup) (world later : World ν)
    (flow : Flow (Outcome Admission)) (moves : Moves surroundings settings input world flow later) :
    Contending settings input flow ∨ flow.Quiet := by
  cases moves with
  | goesOn flow later contends still => exact Or.inl contends
  | refused later held registry issued => exact Or.inr trivial
  | joins user later name email fresh gains issued => exact Or.inr ⟨rfl, fun _ => trivial⟩

theorem Moves.lacks (input : Signup) (world later : World ν) (flow : Flow (Outcome Admission))
    (moves : Moves surroundings settings input world flow later) (key : String)
    (apart : Registry.emailKey input.email ≠ key) (lacks : world.registry.Lacks key) :
    later.registry.Lacks key := by
  cases moves with
  | goesOn flow later contends still =>
      rw [still.registry]
      exact lacks
  | refused later held registry issued =>
      rw [registry]
      exact lacks
  | joins user later name email fresh gains issued =>
      rw [← email] at apart
      exact gains.lacks _ _ user key lacks apart

/-! ## The race for one address -/

/-- One of the signups while nobody has the address. -/
inductive Runner (inputs : List Signup) (key : String) (number : Nat)
    (flow : Flow (Outcome Admission)) : Prop
  | rival (input : Signup) (asked : inputs[number]? = some input)
      (same : Registry.emailKey input.email = key) (contends : Contending settings input flow) :
      Runner inputs key number flow
  | bystander (input : Signup) (asked : inputs[number]? = some input)
      (apart : Registry.emailKey input.email ≠ key)
      (underway : Contending settings input flow ∨ flow.Quiet) : Runner inputs key number flow

/-- One of the signups after somebody has got the address. -/
inductive Finisher (inputs : List Signup) (key : String) (winner : Nat) (user : User)
    (number : Nat) (flow : Flow (Outcome Admission)) : Prop
  | first (is : number = winner)
      (admitted : flow = issueFor settings user ∨ ∃ pair, flow = .done (.ok ⟨user, pair⟩)) :
      Finisher inputs key winner user number flow
  | rival (input : Signup) (asked : inputs[number]? = some input) (other : number ≠ winner)
      (same : Registry.emailKey input.email = key)
      (late : Contending settings input flow ∨ flow = .stop .emailTaken) :
      Finisher inputs key winner user number flow
  | bystander (input : Signup) (asked : inputs[number]? = some input)
      (apart : Registry.emailKey input.email ≠ key)
      (underway : Contending settings input flow ∨ flow.Quiet) :
      Finisher inputs key winner user number flow

/-- The address is free and everybody who wants it is contending, or one signup has got it. -/
inductive Race (inputs : List Signup) (key : String) (crew : Crew ν (Outcome Admission)) : Prop
  | opened (lacks : crew.world.registry.Lacks key)
      (every : crew.Every (Runner settings inputs key)) : Race inputs key crew
  | won (winner : Nat) (input : Signup) (user : User) (asked : inputs[winner]? = some input)
      (same : Registry.emailKey input.email = key) (name : user.name = input.name)
      (email : user.email = input.email)
      (settled : Settled surroundings key user crew.world)
      (every : crew.Every (Finisher settings inputs key winner user)) : Race inputs key crew

theorem not_contending_done (input : Signup) (value : Outcome Admission) :
    ¬ Contending settings input (.done value) := by
  intro contends
  generalize same : Flow.done value = flow at contends
  cases contends <;> cases same

theorem Runner.contends (inputs : List Signup) (key : String) (number : Nat)
    (flow : Flow (Outcome Admission)) (runner : Runner settings inputs key number flow)
    (input : Signup) (asked : inputs[number]? = some input)
    (same : Registry.emailKey input.email = key) : Contending settings input flow := by
  cases runner with
  | rival other also owns contends =>
      rw [asked] at also
      cases also
      exact contends
  | bystander other also apart underway =>
      rw [asked] at also
      cases also
      exact absurd same apart

/-- Once somebody has the address, that one is admitted and a rival comes too late. -/
theorem Finisher.admitted_or_late (inputs : List Signup) (key : String) (winner : Nat) (user : User)
    (number : Nat) (flow : Flow (Outcome Admission))
    (finisher : Finisher settings inputs key winner user number flow) (input : Signup)
    (asked : inputs[number]? = some input) (same : Registry.emailKey input.email = key) :
    (number = winner ∧
        (flow = issueFor settings user ∨ ∃ pair, flow = .done (.ok ⟨user, pair⟩))) ∨
      number ≠ winner ∧ (Contending settings input flow ∨ flow = .stop .emailTaken) := by
  cases finisher with
  | first is admitted => exact Or.inl ⟨is, admitted⟩
  | rival other also differs owns late =>
      rw [asked] at also
      cases also
      exact Or.inr ⟨differs, late⟩
  | bystander other also apart underway =>
      rw [asked] at also
      cases also
      exact absurd same apart

theorem race_begins (inputs : List Signup) (key : String) (world : World ν)
    (lacks : world.registry.Lacks key) :
    Race surroundings settings inputs key ⟨world, inputs.map (signup settings)⟩ := by
  refine .opened lacks fun number flow present => ?_
  rw [List.getElem?_map] at present
  obtain ⟨input, asked, rfl⟩ := Option.map_eq_some_iff.mp present
  by_cases same : Registry.emailKey input.email = key
  · exact .rival input asked same .begun
  · exact .bystander input asked same (Or.inl .begun)

/-- A race that everybody has finished has one winner; all others who wanted the address are turned
away. -/
theorem Race.results (inputs : List Signup) (key : String) (crew : Crew ν (Outcome Admission))
    (race : Race surroundings settings inputs key crew)
    (somebody : ∃ input ∈ inputs, Registry.emailKey input.email = key)
    (answered : ∀ (number : Nat) (input : Signup), inputs[number]? = some input →
      Registry.emailKey input.email = key → ∃ value, crew.flows[number]? = some (.done value)) :
    ∃ winner input user pair, inputs[winner]? = some input ∧
      Registry.emailKey input.email = key ∧ user.name = input.name ∧ user.email = input.email ∧
      crew.result? winner = some (.ok ⟨user, pair⟩) ∧
      (∀ number other, inputs[number]? = some other → Registry.emailKey other.email = key →
        number ≠ winner → crew.result? number = some (.error (.failure .emailTaken))) ∧
      (surroundings.Distinct crew.world.issued → crew.world.registry.Holds key user) := by
  cases race with
  | opened lacks every =>
      obtain ⟨input, member, same⟩ := somebody
      obtain ⟨number, asked⟩ := List.getElem?_of_mem member
      obtain ⟨value, ended⟩ := answered number input asked same
      have contends := (every number _ ended).contends settings inputs key number _ input asked same
      exact absurd contends (not_contending_done settings input value)
  | won winner input user asked same name email settled every =>
      have winning : ∃ pair, crew.flows[winner]? = some (.done (.ok ⟨user, pair⟩)) := by
        obtain ⟨value, ended⟩ := answered winner input asked same
        rcases (every winner _ ended).admitted_or_late settings inputs key winner user winner _
          input asked same with ⟨-, unfinished | ⟨pair, is⟩⟩ | ⟨differs, -⟩
        · cases unfinished
        · exact ⟨pair, ended.trans (congrArg some is)⟩
        · exact absurd rfl differs
      obtain ⟨pair, ended⟩ := winning
      refine ⟨winner, input, user, pair, asked, same, name, email, ?_, ?_, settled.holds⟩
      · rw [Crew.result?, ended]
      · intro number other present owns differs
        obtain ⟨value, finished⟩ := answered number other present owns
        rw [Crew.result?, finished]
        rcases (every number _ finished).admitted_or_late settings inputs key winner user number _
          other present owns with ⟨is, -⟩ | ⟨-, contends | turned⟩
        · exact absurd is differs
        · exact absurd contends (not_contending_done settings other value)
        · cases turned
          rfl

/-! ## A race goes on -/

/-- Hashing never fails. -/
def Hashes (surroundings : Surroundings) : Prop :=
  ∀ count password position, ∃ hash,
    ((surroundings.hasher.hash count password).run surroundings.words position).1 = .ok hash

variable [Throttle.Arithmetic ν] (prompt : surroundings.Prompt settings.limit)
  (hashes : Hashes surroundings)

section

include prompt

theorem turn_signup (input : Signup) (world : World ν) :
    let turned := (signup settings input).turn surroundings world
    Moves surroundings settings input world turned.1 turned.2 := by
  intro turned
  have still := world.still_asked surroundings
  have looked : turned = _ :=
    Flow.turn_askStore surroundings settings.limit prompt (.findByEmail input.email) _ world
  simp only [World.storeWork, World.asked_registry, Outcome.ofExcept_ok] at looked
  rw [looked]
  cases found : world.registry.findByEmail input.email with
  | none => exact .goesOn _ _ .unhashed still
  | some user =>
      refine .refused _ ?_ still.registry still.issued.ge
      intro vacant
      rw [Registry.findByEmail, vacant] at found
      cases found

theorem turn_enrol (input : Signup) (hash : String) (world : World ν) :
    let turned := (enrol settings input hash).turn surroundings world
    Moves surroundings settings input world turned.1 turned.2 := by
  intro turned
  have turns := Flow.turn_askStore surroundings settings.limit prompt
    (.create ⟨input.name, input.email, hash⟩) (fun user => issueFor settings user) world
  obtain ⟨clock, waited⟩ := world.asked_clock surroundings
  rw [waited] at turns
  have made : turned = _ := turns
  simp only [World.storeWork, World.freshId] at made
  rw [made]
  rcases world.registry.create_gains (surroundings.ids world.issued) world.wall
    ⟨input.name, input.email, hash⟩ with ⟨held, taken⟩ | ⟨after, created, gains⟩
  · rw [taken]
    exact .refused _ held rfl (Nat.le_succ _)
  · rw [created]
    exact .joins _ _ rfl rfl rfl gains (Nat.lt_succ_self _)

include hashes

/-- A contending signup goes on, runs into somebody, or stores its user. -/
theorem Contending.turn (input : Signup) (flow : Flow (Outcome Admission))
    (contends : Contending settings input flow) (world : World ν) :
    let turned := flow.turn surroundings world
    Moves surroundings settings input world turned.1 turned.2 := by
  cases contends with
  | begun => exact turn_signup surroundings settings prompt input world
  | unstored hash => exact turn_enrol surroundings settings prompt input hash world
  | unhashed =>
      have still := world.still_answer surroundings (.hash input.password) rfl
      obtain ⟨hash, made⟩ := hashes world.hashed input.password world.drawn
      have answered : (world.answer surroundings (.hash input.password)).1 = .ok hash := made
      simp only [proceed, Flow.turn]
      rw [answered]
      exact .goesOn _ _ (.unstored hash) still

end

section

include prompt hashes

theorem turn_bystander (input : Signup) (flow : Flow (Outcome Admission)) (world : World ν)
    (underway : Contending settings input flow ∨ flow.Quiet) :
    let turned := flow.turn surroundings world
    (Contending settings input turned.1 ∨ turned.1.Quiet) ∧ Grows surroundings world turned.2 ∧
      ∀ key, Registry.emailKey input.email ≠ key → world.registry.Lacks key →
        turned.2.registry.Lacks key := by
  rcases underway with contends | quiet
  · have moves := contends.turn surroundings settings prompt hashes input flow world
    exact ⟨moves.underway surroundings settings input world _ _,
      moves.grows surroundings settings input world _ _,
      moves.lacks surroundings settings input world _ _⟩
  · obtain ⟨rest, still⟩ := quiet.turn surroundings flow world
    refine ⟨Or.inr rest, ⟨still.issued.ge, Or.inl still.registry⟩, fun key _ lacks => ?_⟩
    rw [still.registry]
    exact lacks

/-- While the address is free, a turn leaves it free or decides the race. -/
theorem race_of_opened (inputs : List Signup) (key : String) (crew : Crew ν (Outcome Admission))
    (lacks : crew.world.registry.Lacks key) (every : crew.Every (Runner settings inputs key))
    (number : Nat) (flow : Flow (Outcome Admission))
    (present : crew.flows[number]? = some flow) :
    Race surroundings settings inputs key (crew.after surroundings (.turn number)) := by
  have world := congrArg Crew.world (crew.after_turn surroundings number flow present)
  have others : ∀ other stranger, other ≠ number → crew.flows[other]? = some stranger →
      Runner settings inputs key other stranger := fun other stranger _ => every other stranger
  cases every number flow present with
  | bystander input asked apart underway =>
      obtain ⟨rest, -, free⟩ :=
        turn_bystander surroundings settings prompt hashes input flow crew.world underway
      refine .opened ?_ (crew.every_after_turn surroundings number flow present _
        (.bystander input asked apart rest) others)
      rw [world]
      exact free key apart lacks
  | rival input asked same contends =>
      have moves := contends.turn surroundings settings prompt hashes input flow crew.world
      have moved := crew.every_after_turn surroundings number flow present
      generalize flow.turn surroundings crew.world = turned at world moves moved
      obtain ⟨rest, later⟩ := turned
      cases moves with
      | goesOn rest later contends still =>
          refine .opened ?_ (moved _ (.rival input asked same contends) others)
          rw [world, still.registry]
          exact lacks
      | refused later held registry issued =>
          rw [same] at held
          exact absurd lacks.index held
      | joins user later name email fresh gains issued =>
          rw [← email] at same
          rw [← same] at lacks
          have holds := gains.holds _ _ user lacks
          rw [same] at holds
          refine .won number input user asked (email ▸ same) name email ?_ (moved _
            (.first rfl (Or.inl rfl)) fun other stranger differs there => ?_)
          · rw [world]
            exact ⟨holds.index, ⟨_, issued, fresh.symm⟩, fun _ => holds⟩
          · cases every other stranger there with
            | rival input asked same contends =>
                exact .rival input asked differs same (Or.inl contends)
            | bystander input asked apart underway =>
                exact .bystander input asked apart underway

theorem race_of_won (inputs : List Signup) (key : String) (crew : Crew ν (Outcome Admission))
    (signable : Token.Signable settings.tokens crew.world.wall) (winner : Nat) (input : Signup)
    (user : User) (asked : inputs[winner]? = some input)
    (same : Registry.emailKey input.email = key) (name : user.name = input.name)
    (email : user.email = input.email) (settled : Settled surroundings key user crew.world)
    (every : crew.Every (Finisher settings inputs key winner user))
    (number : Nat) (flow : Flow (Outcome Admission))
    (present : crew.flows[number]? = some flow) :
    Race surroundings settings inputs key (crew.after surroundings (.turn number)) := by
  have world := congrArg Crew.world (crew.after_turn surroundings number flow present)
  have goes : ∀ (grows : Grows surroundings crew.world (flow.turn surroundings crew.world).2)
      (finisher : Finisher settings inputs key winner user number
        (flow.turn surroundings crew.world).1),
      Race surroundings settings inputs key (crew.after surroundings (.turn number)) := by
    intro grows finisher
    refine .won winner input user asked same name email ?_ (crew.every_after_turn surroundings
      number flow present _ finisher fun other stranger _ => every other stranger)
    rw [world]
    exact settled.grows surroundings key user _ _ grows
  cases every number flow present with
  | first is admitted =>
      rcases admitted with rfl | ⟨pair, rfl⟩
      · obtain ⟨pair, signed⟩ := (Token.exists_pair_iff settings.label user.principal
          settings.tokens crew.world.wall).mpr signable
        refine goes ⟨Nat.le_refl _, Or.inl rfl⟩ (.first is (Or.inr ⟨pair, ?_⟩))
        simp only [issueFor, Flow.turn, World.answer, signed, ok_bind]
      · exact goes ⟨Nat.le_refl _, Or.inl rfl⟩ (.first is (Or.inr ⟨pair, rfl⟩))
  | bystander other asked apart underway =>
      obtain ⟨rest, grows, -⟩ :=
        turn_bystander surroundings settings prompt hashes other flow crew.world underway
      exact goes grows (.bystander other asked apart rest)
  | rival other asked differs owns late =>
      rcases late with contends | rfl
      · have moves := contends.turn surroundings settings prompt hashes other flow crew.world
        refine goes (moves.grows surroundings settings other _ _ _)
          (.rival other asked differs owns ?_)
        generalize flow.turn surroundings crew.world = turned at moves
        obtain ⟨rest, later⟩ := turned
        cases moves with
        | goesOn rest later contends still => exact Or.inl contends
        | refused later held registry issued => exact Or.inr rfl
        | joins joiner later name email fresh gains issued =>
            -- the index leads to the winner, so nobody can join under the address
            have free := gains.1
            rw [email, owns, settled.index] at free
            cases free
      · exact goes ⟨Nat.le_refl _, Or.inl rfl⟩ (.rival other asked differs owns (Or.inr rfl))

theorem Race.after (inputs : List Signup) (key : String) (crew : Crew ν (Outcome Admission))
    (signable : Token.Signable settings.tokens crew.world.wall)
    (race : Race surroundings settings inputs key crew) (event : Crew.Event) :
    Race surroundings settings inputs key (crew.after surroundings event) := by
  cases event with
  | wall now =>
      cases race with
      | opened lacks every => exact .opened lacks every
      | won winner input user asked same name email settled every =>
          exact .won winner input user asked same name email
            ⟨settled.index, settled.given, settled.holds⟩ every
  | turn number =>
      cases present : crew.flows[number]? with
      | none =>
          rw [crew.after_turn_absent surroundings number present]
          exact race
      | some flow =>
          cases race with
          | opened lacks every =>
              exact race_of_opened surroundings settings prompt hashes inputs key crew lacks every
                number flow present
          | won winner input user asked same name email settled every =>
              exact race_of_won surroundings settings prompt hashes inputs key crew signable winner
                input user asked same name email settled every number flow present

theorem Race.afterAll (inputs : List Signup) (key : String) (crew : Crew ν (Outcome Admission))
    (signable : Token.Signable settings.tokens crew.world.wall)
    (race : Race surroundings settings inputs key crew) (events : List Crew.Event)
    (readings : ∀ now, Crew.Event.wall now ∈ events → Token.Signable settings.tokens now) :
    Race surroundings settings inputs key (crew.afterAll surroundings events) := by
  induction events generalizing crew with
  | nil => exact race
  | cons event events ih =>
      apply ih (crew.after surroundings event)
      · cases event with
        | wall now => exact readings now List.mem_cons_self
        | turn number =>
            rw [Crew.wall_after_turn]
            exact signable
      · exact race.after surroundings settings prompt hashes inputs key crew signable event
      · intro now later
        exact readings now (List.mem_cons_of_mem _ later)

end

/-- However many signups for an address that nobody has are under way side by side, in whatever
order they have their turns and whoever else signs up meanwhile: exactly one of them returns its
user, all others run into a conflict, and that user is the only one who stands under the address in
the end. -/
theorem one_signup_wins (prompt : surroundings.Prompt settings.limit)
    (hashes : Hashes surroundings) (inputs : List Signup) (key : String)
    (somebody : ∃ input ∈ inputs, Registry.emailKey input.email = key) (world : World ν)
    (lacks : world.registry.Lacks key) (signable : Token.Signable settings.tokens world.wall)
    (events : List Crew.Event)
    (readings : ∀ now, Crew.Event.wall now ∈ events → Token.Signable settings.tokens now)
    (turns : ∀ (number : Nat) (input : Signup), inputs[number]? = some input →
      Registry.emailKey input.email = key → 4 ≤ events.count (.turn number)) :
    let final := (Crew.mk world (inputs.map (signup settings))).afterAll surroundings events
    ∃ winner input user pair, inputs[winner]? = some input ∧
      Registry.emailKey input.email = key ∧ user.name = input.name ∧ user.email = input.email ∧
      final.result? winner = some (.ok ⟨user, pair⟩) ∧
      (∀ number other, inputs[number]? = some other → Registry.emailKey other.email = key →
        number ≠ winner → final.result? number = some (.error (.failure .emailTaken))) ∧
      (surroundings.Distinct final.world.issued → final.world.registry.Holds key user) := by
  intro final
  have begun := race_begins surroundings settings inputs key world lacks
  have raced := begun.afterAll surroundings settings prompt hashes inputs key _ signable events
    readings
  apply raced.results surroundings settings inputs key final somebody
  intro number input asked same
  have present : (inputs.map (signup settings))[number]? = some (signup settings input) := by
    rw [List.getElem?_map, asked, Option.map_some]
  exact Crew.exists_result surroundings _ events number 4 _ present (within_signup settings input)
    (turns number input asked same)

theorem trial_distinct (count : Nat) (few : count ≤ 100) : trial.Distinct count := by
  intro one other first second same
  have values := congrArg (fun id => id.value.toNat) same
  simp only [trial, BitVec.toNat_ofNat] at values
  omega

/-- Two spellings of one address and another address, with the turns going round. -/
theorem one_signup_wins_two_spellings :
    let inputs : List Signup := [⟨"ada", "ada@example.com", "lace"⟩,
      ⟨"imp", "ADA@Example.com", "mask"⟩, ⟨"bob", "bob@example.com", "bricks"⟩]
    let round : List Crew.Event := [.turn 0, .turn 1, .turn 2]
    let final := (Crew.mk (World.start .epoch 0 ⟨1, 0, .empty⟩ : World Rat)
      (inputs.map (signup trialSettings))).afterAll trial (round ++ round ++ round ++ round)
    final.result? 1 = some (.error (.failure .emailTaken)) ∧
      ∃ user pair, final.result? 0 = some (.ok ⟨user, pair⟩) ∧ user.name = "ada" ∧
        final.world.registry.Holds "ada@example.com" user := by
  intro inputs round final
  have lost : final.result? 1 = some (.error (.failure .emailTaken)) := by decide
  have few : final.world.issued ≤ 100 := by decide
  have wanted : ∀ (number : Nat) (input : Signup), inputs[number]? = some input →
      Registry.emailKey input.email = "ada@example.com" → number = 0 ∨ number = 1 := by
    intro number input asked same
    match number with
    | 0 => exact Or.inl rfl
    | 1 => exact Or.inr rfl
    | 2 =>
        cases asked
        exact absurd same (by decide)
    | _ + 3 => cases asked
  have hashes : Hashes trial := fun count password position => ⟨"plain:" ++ password, rfl⟩
  have raced := one_signup_wins trial trialSettings (fun count => ⟨Nat.zero_le _, rfl⟩) hashes
    inputs "ada@example.com" ⟨_, List.mem_cons_self, by decide⟩
    (World.start .epoch 0 ⟨1, 0, .empty⟩ : World Rat)
    ⟨rfl, fun id user found => by cases found⟩
    ⟨by decide, by decide, by decide, by decide⟩ (round ++ round ++ round ++ round)
    (by simp [round]) (by
      intro number input asked same
      rcases wanted number input asked same with rfl | rfl <;> decide)
  have last : Crew.afterAll trial _ (round ++ round ++ round ++ round) = final := rfl
  simp only [last] at raced
  clear_value final
  obtain ⟨winner, input, user, pair, asked, same, name, -, won, -, holds⟩ := raced
  refine ⟨lost, ?_⟩
  rcases wanted winner input asked same with rfl | rfl
  · cases asked
    exact ⟨user, pair, won, name, holds (trial_distinct _ few)⟩
  · rw [lost] at won
    cases won

end Account

end Gatehouse

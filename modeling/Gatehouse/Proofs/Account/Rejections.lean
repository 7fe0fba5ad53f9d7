import Gatehouse.Proofs.Account.Contention
import Gatehouse.Proofs.Account.Unsolved

/-!
# Rejected logins

A login under an address that nobody has goes another way than one with a wrong
password: it compares with a stand-in hash, which the first of its kind makes.
`Guess` is a login and the world that it found; in a run of guesses anything may
happen between two of them that leaves the stand-in alone.  Whichever way a
rejected login goes, it ends with the same failure after one comparison of the
password it gave, and the run makes one stand-in at most.
-/

set_option autoImplicit false

namespace Gatehouse

open Service

/-- What the hasher is asked to compare. -/
def Service.Call.comparison? : {β : Type} → Call β → Option (String × String)
  | _, .compare password known => some (password, known)
  | _, _ => none

/-- The password and the hash of every comparison that a flow asks for. -/
def Service.Flow.comparisons {σ α : Type} (host : Host σ) (flow : Flow α) (state : σ) :
    List (String × String) :=
  (flow.calls host state).filterMap fun made => made.2.comparison?

/-- Tells right from wrong for the hash of everybody who can be found. -/
def Service.Hasher.Decides (hasher : Hasher) (registry : Registry) : Prop :=
  ∀ email user, registry.findByEmail email = some user → ∀ count password,
    ∃ right, hasher.compare count password user.passwordHash = .ok right

/-! ## What a plain call leaves alone -/

/-- What has become of users, stand-in and hasher. -/
structure Service.UserSide where
  registry : Registry
  standIn : Option String
  hashed : Nat
  compared : Nat
  storeCalls : Nat

namespace Service.World

variable {ν : Type}

def userSide (world : World ν) : UserSide :=
  ⟨world.registry, world.standIn, world.hashed, world.compared, world.storeCalls⟩

/-- One as long as the stand-in is still to be made. -/
def unmade (world : World ν) : Nat :=
  if world.standIn = none then 1 else 0

/-- Something may have been hashed since, but nothing except a stand-in that was missing. -/
structure Hashing (before after : World ν) : Prop where
  grows : before.hashed ≤ after.hashed
  same : after.hashed + after.unmade = before.hashed + before.unmade

theorem Hashing.refl (world : World ν) : world.Hashing world :=
  ⟨Nat.le_refl _, rfl⟩

theorem Hashing.trans (first second third : World ν) (early : first.Hashing second)
    (late : second.Hashing third) : first.Hashing third :=
  ⟨early.grows.trans late.grows, late.same.trans early.same⟩

theorem Hashing.of_same (before after : World ν)
    (same : (after.standIn, after.hashed) = (before.standIn, before.hashed)) :
    before.Hashing after := by
  obtain ⟨standIn, hashed⟩ := Prod.mk.inj same
  exact ⟨hashed.ge, by simp only [unmade, standIn, hashed]⟩

variable [Throttle.Arithmetic ν]

theorem userSide_answer (surroundings : Surroundings) {β : Type} (call : Call β) (world : World ν)
    (plain : call.plain = true) : (world.answer surroundings call).2.userSide = world.userSide := by
  cases call with
  | cache limit request =>
      refine see_under userSide (fun _ _ => rfl) _ limit _ (fun _ => ?_)
        { world with cacheCalls := world.cacheCalls + 1 }
      cases request <;> rfl
  | now => rfl
  | draw draw => rfl
  | freshId => rfl
  | spend identity => rfl
  | store limit request => cases plain
  | hash password => cases plain
  | compare password hash => cases plain
  | standIn => cases plain

end Service.World

/-- The call hashes nothing, or nothing but the stand-in. -/
def Service.Call.hashless : {β : Type} → Call β → Bool
  | _, .hash _ => false
  | _, _ => true

theorem Service.World.hashing_answer {ν : Type} [Throttle.Arithmetic ν]
    (surroundings : Surroundings) (hashes : Account.Hashes surroundings) {β : Type} (call : Call β)
    (world : World ν) (hashless : call.hashless = true) :
    world.Hashing (world.answer surroundings call).2 := by
  let see := fun other : World ν => (other.standIn, other.hashed)
  cases call with
  | hash password => cases hashless
  | store limit request =>
      refine .of_same _ _ (World.see_under see (fun _ _ => rfl) _ limit _ (fun _ => ?_)
        { world with storeCalls := world.storeCalls + 1 })
      cases request <;> rfl
  | cache limit request =>
      refine .of_same _ _ (World.see_under see (fun _ _ => rfl) _ limit _ (fun _ => ?_)
        { world with cacheCalls := world.cacheCalls + 1 })
      cases request <;> rfl
  | standIn =>
      cases made : world.standIn with
      | some known => exact .of_same _ _ (by simp only [World.answer, made])
      | none =>
          obtain ⟨known, hashed⟩ := hashes world.hashed standInPassword world.drawn
          simp only [World.answer, made, World.hash, hashed]
          exact ⟨Nat.le_succ _, by simp [World.unmade, made]⟩
  | compare password known => exact .of_same _ _ rfl
  | now => exact .of_same _ _ rfl
  | draw draw => exact .of_same _ _ rfl
  | freshId => exact .of_same _ _ rfl
  | spend identity => exact .of_same _ _ rfl

namespace Account

variable {ν : Type} [Throttle.Arithmetic ν] (surroundings : Surroundings) (settings : Settings)

/-! ## One rejection -/

/-- The flow ends as a rejected login ends, with the users as they were and after one comparison of
this password. -/
structure Rejects (password : String) (flow : Flow (Outcome Admission)) (world : World ν) :
    Prop where
  ends : (flow.run surroundings world).1 = .error (.failure .invalidCredentials)
  keeps : (flow.run surroundings world).2.registry = world.registry
  compares : ∃ known, flow.comparisons (World.host surroundings) world = [(password, known)]

theorem Rejects.after {α : Type} (password : String) (flow : Flow (Outcome α))
    (next : α → Flow (Outcome Admission)) (world : World ν) (value : α)
    (passes : (flow.run surroundings world).1 = .ok value)
    (kept : (flow.run surroundings world).2.registry = world.registry)
    (silent : flow.comparisons (World.host surroundings) world = [])
    (rejects : Rejects surroundings password (next value) (flow.run surroundings world).2) :
    Rejects surroundings password (flow.andThen next) world := by
  have goes : (flow.andThen next).run surroundings world =
      (next value).run surroundings (flow.run surroundings world).2 :=
    Flow.run_andThen surroundings flow next world _ value (Prod.ext passes rfl)
  have same := Flow.runWith_host surroundings flow world
  refine ⟨by rw [goes]; exact rejects.ends, by rw [goes]; exact rejects.keeps.trans kept, ?_⟩
  obtain ⟨known, compared⟩ := rejects.compares
  refine ⟨known, ?_⟩
  rw [Flow.comparisons, Flow.calls_andThen_ok _ _ _ _ value (by rw [same]; exact passes),
    List.filterMap_append, same]
  exact congrArg₂ (· ++ ·) silent compared

theorem rejects_unknown (hashes : Hashes surroundings) (password : String) (world : World ν) :
    Rejects surroundings password (rejectUnknown password) world := by
  have kept : (world.answer surroundings .standIn).2.registry = world.registry :=
    (world.still_answer surroundings .standIn rfl).registry
  have made : ∃ known, (world.answer surroundings .standIn).1 = .ok known := by
    cases standIn : world.standIn with
    | some known => exact ⟨known, by simp only [World.answer, standIn]⟩
    | none =>
        obtain ⟨known, hashed⟩ := hashes world.hashed standInPassword world.drawn
        exact ⟨known, by simp only [World.answer, standIn, World.hash, hashed]⟩
  obtain ⟨known, made⟩ := made
  refine ⟨?_, ?_, known, ?_⟩
  · rw [rejectUnknown, Flow.run_ask, made]
    rfl
  · rw [rejectUnknown, Flow.run_ask, made]
    exact kept
  · have answered : ((World.host surroundings).answer .standIn world).1 = .ok known := made
    simp only [rejectUnknown, Flow.comparisons, Flow.calls, answered]
    rfl

theorem rejects_wrong (password known : String) (world : World ν)
    (next : Except Failure Bool → Flow (Outcome Admission))
    (refuses : next (.ok false) = .stop .invalidCredentials)
    (wrong : surroundings.hasher.compare world.compared password known = .ok false) :
    Rejects surroundings password (.ask (.compare password known) next) world := by
  have answered : (world.answer surroundings (.compare password known)).1 = .ok false := wrong
  refine ⟨?_, ?_, known, ?_⟩
  · rw [Flow.run_ask, answered, refuses, Flow.run_stop]
  · rw [Flow.run_ask, answered, refuses, Flow.run_stop]
    rfl
  · have hosted : ((World.host surroundings).answer (.compare password known) world).1 =
      .ok false := wrong
    simp only [Flow.comparisons, Flow.calls, hosted, refuses]
    rfl

/-! ## A login and the world that it found -/

structure Guess (ν : Type) where
  input : Login
  found : World ν

namespace Guess

variable (guess : Guess ν)

def ran : Outcome Admission × World ν :=
  (login settings guess.input).run surroundings guess.found

def comparisons : List (String × String) :=
  (login settings guess.input).comparisons (World.host surroundings) guess.found

/-- How often the login had something hashed. -/
def hashings : Nat :=
  (guess.ran surroundings settings).2.hashed - guess.found.hashed

/-- The captcha part passes, and the user store answers when it is asked for the user. -/
structure Examined : Prop where
  passes : ((checkCaptcha settings guess.input).run surroundings guess.found).1 = .ok ()
  inTime : (surroundings.store guess.found.storeCalls).delay ≤ settings.limit
  works : (surroundings.store guess.found.storeCalls).failing = none

/-- Nobody has the address. -/
def Unknown : Prop :=
  guess.found.registry.findByEmail guess.input.email = none

/-- Somebody has the address, and the password is not verified. -/
def Wrong : Prop :=
  ∃ user, guess.found.registry.findByEmail guess.input.email = some user ∧
    surroundings.hasher.compare guess.found.compared guess.input.password user.passwordHash ≠
      .ok true

end Guess

theorem comparisons_checkCaptcha {σ : Type} (host : Host σ) (input : Login) (state : σ) :
    (checkCaptcha settings input).comparisons host state = [] := by
  rw [Flow.comparisons, List.filterMap_eq_nil_iff]
  rintro ⟨β, call⟩ made
  have plain := (makes_checkCaptcha settings input).calls _ _ host state _ made
  cases call with
  | compare password known => cases plain
  | _ => rfl

theorem userSide_checkCaptcha (input : Login) (world : World ν) :
    ((checkCaptcha settings input).run surroundings world).2.userSide = world.userSide := by
  rw [← Flow.runWith_host]
  exact (makes_checkCaptcha settings input).keeps _ World.userSide (World.host surroundings)
    (fun call state plain => state.userSide_answer surroundings call plain) _ world

theorem Guess.rejected (guess : Guess ν) (examined : guess.Examined surroundings settings)
    (hashes : Hashes surroundings) (decides : surroundings.hasher.Decides guess.found.registry)
    (unfit : guess.Unknown ∨ guess.Wrong surroundings) :
    Rejects surroundings guess.input.password (login settings guess.input) guess.found := by
  have side := userSide_checkCaptcha surroundings settings guess.input guess.found
  generalize reached : ((checkCaptcha settings guess.input).run surroundings guess.found).2 = world
    at side
  simp only [World.userSide, UserSide.mk.injEq] at side
  obtain ⟨registry, -, -, compared, storeCalls⟩ := side
  refine Rejects.after surroundings _ _ _ guess.found () examined.passes (by rw [reached, registry])
    (comparisons_checkCaptcha settings _ _ _) ?_
  rw [reached, checkCredentials]
  have inTime := examined.inTime
  have works := examined.works
  rw [← storeCalls] at inTime works
  have asked : (Flow.askStore settings.limit (.findByEmail guess.input.email)).run surroundings
      world = (.ok (guess.found.registry.findByEmail guess.input.email),
        world.asked surroundings) := by
    rw [Flow.askStore, Flow.run_ask, world.answer_store_working surroundings _ _ inTime works,
      ← registry, ← world.asked_registry surroundings]
    rfl
  have silent : (Flow.askStore settings.limit (.findByEmail guess.input.email)).comparisons
      (World.host surroundings) world = [] := by
    rw [Flow.comparisons, Flow.calls_askStore]
    rfl
  refine Rejects.after surroundings _ _ _ world _ (congrArg Prod.fst asked)
    (by rw [asked, world.asked_registry]) silent ?_
  rw [asked]
  rcases unfit with unknown | ⟨user, known, unverified⟩
  · rw [unknown]
    exact rejects_unknown surroundings hashes _ _
  · rw [known]
    have same : (world.asked surroundings).compared = guess.found.compared := by
      obtain ⟨clock, waited⟩ := world.asked_clock surroundings
      rw [waited]
      exact compared
    obtain ⟨right, decided⟩ := decides _ _ known guess.found.compared guess.input.password
    cases right with
    | true => exact absurd decided unverified
    | false => exact rejects_wrong surroundings _ _ _ _ rfl (by rw [same]; exact decided)

/-! ## Runs of logins -/

theorem makes_hashless_issueFor (user : User) : (issueFor settings user).Makes Call.hashless :=
  ⟨rfl, fun _ => trivial⟩

theorem makes_hashless_checkCredentials (input : Login) :
    (checkCredentials settings input).Makes Call.hashless := by
  refine Flow.Makes.andThen _ _ _ (Flow.makes_askStore _ _ _ rfl) fun found => ?_
  cases found with
  | none =>
      refine ⟨rfl, fun made => ?_⟩
      cases made with
      | error failure => exact trivial
      | ok known => exact ⟨rfl, fun _ => trivial⟩
  | some user =>
      refine ⟨rfl, fun reply => ?_⟩
      rcases reply with failure | right | wrong
      · exact trivial
      · exact trivial
      · exact makes_hashless_issueFor settings user

/-- A login has nothing hashed but the stand-in. -/
theorem makes_hashless_login (input : Login) : (login settings input).Makes Call.hashless := by
  refine Flow.Makes.andThen _ _ _ ?_ fun _ => makes_hashless_checkCredentials settings input
  refine Flow.Makes.mono Call.plain _ (fun call plain => ?_) _
    (makes_checkCaptcha settings input)
  cases call with
  | hash password => cases plain
  | _ => rfl

theorem Guess.hashing (hashes : Hashes surroundings) (guess : Guess ν) :
    guess.found.Hashing (guess.ran surroundings settings).2 := by
  have led := (makes_hashless_login settings guess.input).leads _ World.Hashing World.Hashing.refl
    World.Hashing.trans (World.host surroundings)
    (fun call world hashless => world.hashing_answer surroundings hashes call hashless) _
    guess.found
  rw [Flow.runWith_host] at led
  exact led

/-- Between two logins anything may happen, but nobody else touches the stand-in. -/
def Guess.Precedes (earlier later : Guess ν) : Prop :=
  later.found.standIn = (earlier.ran surroundings settings).2.standIn

/-- As long as the stand-in is missing, a run may have it hashed; after that, never again. -/
theorem hashings_le (hashes : Hashes surroundings) (guess : Guess ν) (guesses : List (Guess ν))
    (run : (guess :: guesses).IsChain (Guess.Precedes surroundings settings)) :
    ((guess :: guesses).map fun each => each.hashings surroundings settings).sum ≤
      guess.found.unmade := by
  induction guesses generalizing guess with
  | nil =>
      obtain ⟨grows, same⟩ := guess.hashing surroundings settings hashes
      simp only [List.map_cons, List.map_nil, List.sum_cons, List.sum_nil, Guess.hashings]
      omega
  | cons next guesses ih =>
      -- the next login finds unmade what the first has left so
      obtain ⟨follows, run⟩ := List.isChain_cons_cons.mp run
      have rest := ih next run
      obtain ⟨grows, same⟩ := guess.hashing surroundings settings hashes
      have left : next.found.unmade = (guess.ran surroundings settings).2.unmade := by
        rw [World.unmade, follows]
        rfl
      rw [List.map_cons, List.sum_cons, Guess.hashings]
      omega

/-- In a run of logins with a hasher that neither fails to hash nor to tell right from wrong, every
login that passes its captcha under an address that nobody has, and every one with a wrong password,
ends with the same failure, leaves the users as they were and is compared once, by the password it
gave.  The whole run has the stand-in hashed once at most. -/
theorem rejections_alike (hashes : Hashes surroundings) (guesses : List (Guess ν))
    (decides : ∀ guess ∈ guesses, surroundings.hasher.Decides guess.found.registry)
    (run : guesses.IsChain (Guess.Precedes surroundings settings)) :
    (∀ guess ∈ guesses, guess.Examined surroundings settings →
      guess.Unknown ∨ guess.Wrong surroundings →
        (guess.ran surroundings settings).1 = .error (.failure .invalidCredentials) ∧
        (guess.ran surroundings settings).2.registry = guess.found.registry ∧
        ∃ known, guess.comparisons surroundings settings = [(guess.input.password, known)]) ∧
    (guesses.map fun guess => guess.hashings surroundings settings).sum ≤ 1 := by
  constructor
  · intro guess made examined unfit
    have rejects := guess.rejected surroundings settings examined hashes (decides guess made) unfit
    exact ⟨rejects.ends, rejects.keeps, rejects.compares⟩
  · cases guesses with
    | nil => exact Nat.zero_le _
    | cons guess guesses =>
        have bound := hashings_le surroundings settings hashes guess guesses run
        have once : guess.found.unmade ≤ 1 := by
          rw [World.unmade]
          split <;> omega
        exact bound.trans once

/-- Eve is unknown, and Ada gives a wrong password.  They are told the same; the stand-in is hashed
for Eve, and after that there is nothing to be hashed. -/
theorem rejections_alike_eve_and_ada :
    let world : World Rat := { World.start .epoch 0 ⟨1, 0, .empty⟩ with
      registry := (Registry.empty.create (trial.ids 0) .epoch
        ⟨"ada", "ada@example.com", "plain:lace"⟩).2 }
    let eve : Guess Rat := ⟨⟨"eve@example.com", "lace", none⟩, world⟩
    let ada : Guess Rat := ⟨⟨"ada@example.com", "guess", none⟩, (eve.ran trial trialSettings).2⟩
    (eve.ran trial trialSettings).1 = .error (.failure .invalidCredentials) ∧
      (ada.ran trial trialSettings).1 = .error (.failure .invalidCredentials) ∧
      (ada.ran trial trialSettings).2.registry = world.registry ∧
      (∃ known, eve.comparisons trial trialSettings = [("lace", known)]) ∧
      (∃ known, ada.comparisons trial trialSettings = [("guess", known)]) ∧
      eve.hashings trial trialSettings + ada.hashings trial trialSettings ≤ 1 := by
  intro world eve ada
  have hashes : Hashes trial := fun count password position => ⟨"plain:" ++ password, rfl⟩
  have decides : ∀ guess ∈ [eve, ada], trial.hasher.Decides guess.found.registry :=
    fun guess _ email user _ count password => ⟨_, rfl⟩
  obtain ⟨rejected, once⟩ := rejections_alike trial trialSettings hashes [eve, ada] decides
    (List.isChain_cons_cons.mpr ⟨rfl, List.IsChain.singleton ada⟩)
  have unknown : eve.Unknown := by
    simp only [Guess.Unknown]
    decide
  obtain ⟨ends, kept, compared⟩ := rejected eve (by simp) ⟨rfl, Nat.zero_le _, rfl⟩ (Or.inl unknown)
  have wrong : ada.Wrong trial := by
    refine ⟨⟨trial.ids 0, "ada", "ada@example.com", "plain:lace", .epoch⟩, ?_, ?_⟩
    · rw [kept]
      decide
    · decide
  obtain ⟨fails, left, also⟩ := rejected ada (by simp) ⟨rfl, Nat.zero_le _, rfl⟩ (Or.inr wrong)
  refine ⟨ends, fails, left.trans kept, compared, also, ?_⟩
  simpa using once

end Account

end Gatehouse

import Gatehouse.Proofs.Service.Calls
import Gatehouse.Proofs.Service.Turns
import Gatehouse.Proofs.Table

/-!
# Twins

Two services with two hashers that cannot be told apart by what they say, only by
the hashes they make.  Which hashes match is a parameter.  Two worlds are alike
if nothing but matching hashes sets them apart; two flows are twins if they make
the same calls, but for matching hashes in them, and stay twins on all replies
that match.  Twins that are run in worlds that are alike come to related results.
-/

set_option autoImplicit false

namespace Gatehouse

/-- The same error, or related values. -/
inductive Agree {ε α : Type} (related : α → α → Prop) : Except ε α → Except ε α → Prop
  | ok (one other : α) (values : related one other) : Agree related (.ok one) (.ok other)
  | error (error : ε) : Agree related (.error error) (.error error)

theorem Agree.ofExcept {α : Type} (related : α → α → Prop) (one other : Except Failure α)
    (agree : Agree related one other) :
    Agree related (Outcome.ofExcept one) (Outcome.ofExcept other) := by
  cases agree with
  | ok one other values => exact .ok one other values
  | error failure => exact .error _

/-- The same reply, but for related values. -/
inductive Service.Reply.Agree {α : Type} (related : α → α → Prop) : Reply α → Reply α → Prop
  | answered (one other : Except Failure α) (agree : Gatehouse.Agree related one other) :
      Reply.Agree related (.answered one) (.answered other)
  | late : Reply.Agree related .late .late

theorem Agree.eq {ε α : Type} (one other : Except ε α) (agree : Agree Eq one other) :
    one = other := by
  cases agree with
  | ok one other same => rw [same]
  | error failure => rfl

theorem Service.Reply.Agree.eq {α : Type} (one other : Reply α) (agree : Reply.Agree Eq one other) :
    one = other := by
  cases agree with
  | answered one other agree => rw [Gatehouse.Agree.eq one other agree]
  | late => rfl

variable (matched : String → String → Prop)

/-! ## Users and registries that are alike -/

/-- The same user with a matching hash. -/
inductive User.Alike (user : User) : User → Prop
  | facing (hash : String) (matching : matched user.passwordHash hash) :
      Alike user { user with passwordHash := hash }

structure Registry.Alike (registry other : Registry) : Prop where
  index : other.byEmail = registry.byEmail
  users : ∀ id, Option.Rel (User.Alike matched) (registry.users.get? id) (other.users.get? id)

namespace Registry

variable {matched}

theorem Alike.findByEmail (registry other : Registry) (alike : registry.Alike matched other)
    (email : String) :
    Option.Rel (User.Alike matched) (registry.findByEmail email) (other.findByEmail email) := by
  rw [Registry.findByEmail, Registry.findByEmail, alike.index]
  cases registry.byEmail.get? (emailKey email) with
  | none => exact .none
  | some id => exact alike.users id

/-- Where one finds the address taken, so does the other; otherwise both get the same user, with
hashes that match. -/
theorem Alike.create (registry other : Registry) (alike : registry.Alike matched other) (id : Uuid)
    (now : Instant) (name email hash twin : String) (matching : matched hash twin) :
    Agree (User.Alike matched) (registry.create id now ⟨name, email, hash⟩).1
        (other.create id now ⟨name, email, twin⟩).1 ∧
      (registry.create id now ⟨name, email, hash⟩).2.Alike matched
        (other.create id now ⟨name, email, twin⟩).2 := by
  rw [Registry.create, Registry.create, alike.index]
  split
  · exact ⟨.error _, alike⟩
  · have user : User.Alike matched ⟨id, name, email, hash, now⟩ ⟨id, name, email, twin, now⟩ :=
      .facing twin matching
    refine ⟨.ok _ _ user, rfl, fun found => ?_⟩
    rw [Table.get?_put, Table.get?_put]
    split
    · exact .some user
    · exact alike.users found

end Registry

namespace Service

/-! ## Hashers and worlds that are alike -/

/-- At the same call both fail with the same failure or both make hashes, and these match; and they
say the same about matching hashes. -/
structure Hasher.Alike (one other : Hasher) : Prop where
  hash : ∀ count password words position,
    Agree matched ((one.hash count password).run words position).1
        ((other.hash count password).run words position).1 ∧
      ((one.hash count password).run words position).2 =
        ((other.hash count password).run words position).2
  compare : ∀ count password known twin, matched known twin →
    one.compare count password known = other.compare count password twin

variable {ν α β : Type}

/-- The same world, but for matching hashes of its users and of its stand-in. -/
inductive World.Alike (world : World ν) : World ν → Prop
  | facing (registry : Registry) (standIn : Option String)
      (users : world.registry.Alike matched registry)
      (standIns : Option.Rel matched world.standIn standIn) :
      Alike world { world with registry := registry, standIn := standIn }

/-! ## Calls and replies that are alike -/

/-- No hash goes with the call. -/
def Call.hashFree : {β : Type} → Call β → Bool
  | _, .store _ (.create _) => false
  | _, .compare _ _ => false
  | _, _ => true

/-- The same call, but for a matching hash in it. -/
inductive Call.Alike : {β : Type} → Call β → Call β → Prop
  | same {β : Type} (call : Call β) (free : call.hashFree = true) : Call.Alike call call
  | create (limit : Nat) (name email hash twin : String) (matching : matched hash twin) :
      Call.Alike (.store limit (.create ⟨name, email, hash⟩))
        (.store limit (.create ⟨name, email, twin⟩))
  | compare (password known twin : String) (matching : matched known twin) :
      Call.Alike (.compare password known) (.compare password twin)

/-- What sets the replies to alike calls apart. -/
def Call.Replies : {β : Type} → Call β → β → β → Prop
  | _, .store _ (.create _) => Reply.Agree (User.Alike matched)
  | _, .store _ (.findByEmail _) => Reply.Agree (Option.Rel (User.Alike matched))
  | _, .store _ (.findById _) => Reply.Agree (Option.Rel (User.Alike matched))
  | _, .hash _ => Agree matched
  | _, .standIn => Agree matched
  | _, _ => Eq

namespace World

variable {matched}

theorem Alike.under (turn : Turn) (limit : Nat) (related : α → α → Prop)
    (work again : World ν → Except Failure α × World ν)
    (works : ∀ world twin : World ν, world.Alike matched twin →
      Agree related (work world).1 (again twin).1 ∧ (work world).2.Alike matched (again twin).2)
    (world twin : World ν) (alike : world.Alike matched twin) :
    Reply.Agree related (world.under turn limit work).1 (twin.under turn limit again).1 ∧
      (world.under turn limit work).2.Alike matched (twin.under turn limit again).2 := by
  have waits (milliseconds : Nat) :
      (world.wait milliseconds).Alike matched (twin.wait milliseconds) := by
    cases alike with
    | facing registry standIn users standIns =>
        rw [World.wait, World.wait]
        exact .facing registry standIn users standIns
  rw [World.under, World.under]
  split
  · exact ⟨.late, waits limit⟩
  · cases turn.failing with
    | some failure => exact ⟨.answered _ _ (.error failure), waits turn.delay⟩
    | none =>
        obtain ⟨agree, after⟩ := works _ _ (waits turn.delay)
        exact ⟨.answered _ _ agree, after⟩

theorem Alike.create (surroundings other : Surroundings) (ids : other.ids = surroundings.ids)
    (name email hash twin : String) (matching : matched hash twin) (world copy : World ν)
    (alike : world.Alike matched copy) :
    Agree (User.Alike matched)
        (storeWork surroundings (.create ⟨name, email, hash⟩) world).1
        (storeWork other (.create ⟨name, email, twin⟩) copy).1 ∧
      (storeWork surroundings (.create ⟨name, email, hash⟩) world).2.Alike matched
        (storeWork other (.create ⟨name, email, twin⟩) copy).2 := by
  cases alike with
  | facing registry standIn users standIns =>
      simp only [storeWork, freshId, ids]
      obtain ⟨agree, after⟩ := users.create _ _ (surroundings.ids world.issued) world.wall name
        email hash twin matching
      exact ⟨agree, .facing _ standIn after standIns⟩

theorem Alike.hash [Throttle.Arithmetic ν] (one other : Surroundings)
    (words : other.words = one.words) (hashers : one.hasher.Alike matched other.hasher)
    (password : String) (world twin : World ν) (alike : world.Alike matched twin) :
    Agree matched (world.hash one password).1 (twin.hash other password).1 ∧
      (world.hash one password).2.Alike matched (twin.hash other password).2 := by
  cases alike with
  | facing registry standIn users standIns =>
      obtain ⟨agree, position⟩ := hashers.hash world.hashed password one.words world.drawn
      simp only [World.hash, words]
      rw [← position]
      exact ⟨agree, .facing registry standIn users standIns⟩

theorem Alike.standIn [Throttle.Arithmetic ν] (one other : Surroundings)
    (words : other.words = one.words) (hashers : one.hasher.Alike matched other.hasher)
    (world twin : World ν) (alike : world.Alike matched twin) :
    Agree matched (world.answer one .standIn).1 (twin.answer other .standIn).1 ∧
      (world.answer one .standIn).2.Alike matched (twin.answer other .standIn).2 := by
  obtain ⟨agree, after⟩ := alike.hash one other words hashers standInPassword
  cases alike with
  | facing registry standIn users standIns =>
      cases made : world.standIn with
      | some known =>
          rw [made] at standIns
          rcases standIns with matching | _
          simp only [World.answer, made]
          exact ⟨.ok _ _ matching, .facing registry _ users (made ▸ .some matching)⟩
      | none =>
          -- the first to need the stand-in has it hashed
          rw [made] at standIns
          cases standIns
          simp only [World.answer, made]
          generalize world.hash one standInPassword = first at agree after ⊢
          generalize World.hash other standInPassword _ = second at agree after ⊢
          obtain ⟨result, later⟩ := first
          obtain ⟨again, last⟩ := second
          cases agree with
          | error failure => exact ⟨.error failure, after⟩
          | ok known copy matching =>
              cases after with
              | facing registry standIn users standIns =>
                  exact ⟨.ok _ _ matching, .facing registry _ users (.some matching)⟩

theorem Alike.answer [Throttle.Arithmetic ν] (one other : Surroundings)
    (same : other = { one with hasher := other.hasher })
    (hashers : one.hasher.Alike matched other.hasher) (call again : Call β)
    (calls : call.Alike matched again) (world twin : World ν) (alike : world.Alike matched twin) :
    call.Replies matched (world.answer one call).1 (twin.answer other again).1 ∧
      (world.answer one call).2.Alike matched (twin.answer other again).2 := by
  -- the hasher is all that the other surroundings have of their own
  generalize other.hasher = hasher at same hashers
  subst same
  have hashing := Alike.hash (ν := ν) one { one with hasher := hasher } rfl hashers
  have standing := Alike.standIn one { one with hasher := hasher } rfl hashers world twin alike
  cases alike with
  | facing registry standIn users standIns =>
      have asked : Alike matched { world with storeCalls := world.storeCalls + 1 } _ :=
        .facing registry standIn users standIns
      have looked : Alike matched { world with cacheCalls := world.cacheCalls + 1 } _ :=
        .facing registry standIn users standIns
      cases calls with
      | create limit name email hash copy matching =>
          exact Alike.under _ limit _ _ _
            (Alike.create one _ rfl name email hash copy matching) _ _ asked
      | compare password known copy matching =>
          exact ⟨hashers.compare _ _ _ _ matching, .facing registry standIn users standIns⟩
      | same call free =>
          cases call with
          | store limit request =>
              cases request with
              | create new => cases free
              | findByEmail email =>
                  refine Alike.under _ limit _ _ _ (fun before after alike => ?_) _ _ asked
                  cases alike with
                  | facing registry standIn users standIns =>
                      exact ⟨.ok _ _ (users.findByEmail _ _ email),
                        .facing registry standIn users standIns⟩
              | findById id =>
                  refine Alike.under _ limit _ _ _ (fun before after alike => ?_) _ _ asked
                  cases alike with
                  | facing registry standIn users standIns =>
                      exact ⟨.ok _ _ (users.users id), .facing registry standIn users standIns⟩
          | cache limit request =>
              have works : ∀ before after : World ν, before.Alike matched after →
                  Agree Eq (cacheWork one.cacheHealth request before).1
                      (cacheWork one.cacheHealth request after).1 ∧
                    (cacheWork one.cacheHealth request before).2.Alike matched
                      (cacheWork one.cacheHealth request after).2 := by
                intro before after alike
                cases alike with
                | facing registry standIn users standIns =>
                    cases request <;> exact ⟨.ok _ _ rfl, .facing registry standIn users standIns⟩
              obtain ⟨agree, after⟩ := Alike.under (one.cache world.cacheCalls) limit Eq _ _ works
                _ _ looked
              exact ⟨agree.eq, after⟩
          | compare password known => cases free
          | hash password => exact hashing password _ _ (.facing registry standIn users standIns)
          | standIn => exact standing
          | now => exact ⟨rfl, .facing registry standIn users standIns⟩
          | draw draw => exact ⟨rfl, .facing registry standIn users standIns⟩
          | freshId => exact ⟨rfl, .facing registry standIn users standIns⟩
          | spend identity => exact ⟨rfl, .facing registry standIn users standIns⟩

end World

/-! ## Twin flows -/

namespace Flow

/-- The flows make alike calls, whatever replies they get, as long as these match, and end with
related values. -/
inductive Twin (related : α → α → Prop) : Flow α → Flow α → Prop
  | done (one other : α) (values : related one other) : Twin related (.done one) (.done other)
  | ask {β : Type} (call again : Call β) (calls : call.Alike matched again)
      (next following : β → Flow α)
      (rest : ∀ reply other, call.Replies matched reply other →
        Twin related (next reply) (following other)) :
      Twin related (.ask call next) (.ask again following)

variable {matched} {related : α → α → Prop} {outcomes : β → β → Prop}

theorem Twin.bind (one other : Flow α) (twin : Twin matched related one other)
    (next following : α → Flow β)
    (rest : ∀ value copy, related value copy →
      Twin matched outcomes (next value) (following copy)) :
    Twin matched outcomes (one.bind next) (other.bind following) := by
  induction twin with
  | done one other values => exact rest one other values
  | ask call again calls first second _ ih => exact .ask call again calls _ _ ih

theorem Twin.bind_same (flow : Flow α) (twin : Twin matched Eq flow flow) (next : α → Flow β)
    (rest : ∀ value, Twin matched outcomes (next value) (next value)) :
    Twin matched outcomes (flow.bind next) (flow.bind next) :=
  twin.bind flow flow next next fun value _ same => same ▸ rest value

theorem Twin.andThen (one other : Flow (Outcome α)) (twin : Twin matched (Agree related) one other)
    (next following : α → Flow (Outcome β))
    (rest : ∀ value copy, related value copy →
      Twin matched (Agree outcomes) (next value) (following copy)) :
    Twin matched (Agree outcomes) (one.andThen next) (other.andThen following) := by
  refine twin.bind one other _ _ fun outcome copy agree => ?_
  cases agree with
  | ok value copy values => exact rest value copy values
  | error fault => exact .done _ _ (.error fault)

theorem twin_stop (failure : Failure) :
    Twin matched (Agree related) (stop failure) (stop failure) :=
  .done _ _ (.error _)

/-- A flow that has nothing to do with users and hashes is its own twin. -/
theorem twin_of_plain (flow : Flow α) (makes : flow.Makes Call.plain) :
    Twin matched Eq flow flow := by
  induction flow with
  | done value => exact .done _ _ rfl
  | ask call next ih =>
      have free : call.hashFree = true ∧ ∀ reply other, call.Replies matched reply other →
          reply = other := by
        have plain := makes.1
        cases call with
        | store limit request => cases plain
        | hash password => cases plain
        | compare password known => cases plain
        | standIn => cases plain
        | _ => exact ⟨rfl, fun reply other same => same⟩
      refine .ask call call (.same call free.1) _ _ fun reply other replies => ?_
      rw [← free.2 reply other replies]
      exact ih reply (makes.2 reply)

variable [Throttle.Arithmetic ν] (one other : Surroundings)
  (same : other = { one with hasher := other.hasher })
  (hashers : one.hasher.Alike matched other.hasher)

include same hashers

theorem Twin.turn (flow copy : Flow α) (twin : Twin matched related flow copy)
    (world mirror : World ν) (alike : world.Alike matched mirror) :
    Twin matched related (flow.turn one world).1 (copy.turn other mirror).1 ∧
      (flow.turn one world).2.Alike matched (copy.turn other mirror).2 := by
  cases twin with
  | done value copy values => exact ⟨.done value copy values, alike⟩
  | ask call again calls next following rest =>
      obtain ⟨replies, after⟩ := alike.answer one other same hashers call again calls
      exact ⟨rest _ _ replies, after⟩

end Flow

end Service

end Gatehouse

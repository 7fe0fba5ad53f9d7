import Mathlib.Data.List.Nodup
import Gatehouse.Proofs.Account.FailedSignups

/-!
# The index of addresses

The registry keeps its users and the index of their addresses in two tables,
which adding and removing a user write one after the other.  In whatever way it
has come about, the index is the inverse of the users (`Indexed`): every entry
leads to a user with that address, and every user stands under its own.  One
action keeps this up as long as no stored user has the identifier that a new one
gets (`Stage.Sound.after`), and so does any row of actions.
-/

set_option autoImplicit false

namespace Gatehouse.Registry

/-- The user is stored. -/
def Live (registry : Registry) (user : User) : Prop :=
  registry.findById user.id = some user

/-- The index and the users are inverse to each other. -/
structure Indexed (registry : Registry) : Prop where
  named : ∀ id user, registry.users.get? id = some user → user.id = id
  inverse : ∀ key id, registry.byEmail.get? key = some id ↔
    ∃ user, registry.users.get? id = some user ∧ emailKey user.email = key

theorem indexed_empty : Registry.empty.Indexed where
  named _ _ found := by cases found
  inverse key id := by
    constructor
    · intro found
      cases found
    · rintro ⟨user, found, -⟩
      cases found

theorem remove_cases (registry : Registry) (id : Uuid) :
    (registry.users.get? id = none ∧ registry.remove id = (none, registry)) ∨
      ∃ user, registry.users.get? id = some user ∧ registry.remove id =
        (some user, ⟨registry.users.erase id, registry.byEmail.erase (emailKey user.email)⟩) := by
  unfold remove
  cases registry.users.get? id with
  | none => exact Or.inl ⟨rfl, rfl⟩
  | some user => exact Or.inr ⟨user, rfl, rfl⟩

theorem fst_remove (registry : Registry) (id : Uuid) :
    (registry.remove id).1 = registry.findById id := by
  rw [findById]
  rcases registry.remove_cases id with ⟨absent, same⟩ | ⟨user, found, same⟩
  · rw [same, absent]
  · rw [same, found]

/-! ## What the index says -/

namespace Indexed

variable {registry : Registry} (indexed : registry.Indexed)

include indexed

theorem live_iff (user : User) :
    registry.Live user ↔ ∃ id, registry.users.get? id = some user := by
  constructor
  · intro live
    exact ⟨user.id, live⟩
  · rintro ⟨id, found⟩
    obtain rfl := indexed.named id user found
    exact found

theorem unshared (one other : User) (first : registry.Live one) (second : registry.Live other)
    (same : emailKey one.email = emailKey other.email) : one = other := by
  have entry := (indexed.inverse (emailKey other.email) one.id).mpr ⟨one, first, same⟩
  rw [(indexed.inverse (emailKey other.email) other.id).mpr ⟨other, second, rfl⟩] at entry
  have found := Option.some.inj entry
  rw [Live, ← found] at first
  exact Option.some.inj (first.symm.trans second)

/-- The entries of the index are the users turned round: as many, and the same. -/
theorem perm : registry.byEmail.entries.Perm
    (registry.users.entries.map fun entry => (emailKey entry.2.email, entry.1)) := by
  have users : (registry.users.entries.map fun entry => (emailKey entry.2.email, entry.1)).Nodup := by
    refine List.Nodup.of_map Prod.snd ?_
    rw [List.map_map]
    exact registry.users.distinct
  refine (List.perm_ext_iff_of_nodup (List.Nodup.of_map _ registry.byEmail.distinct) users).mpr ?_
  rintro ⟨key, id⟩
  rw [← Table.get?_eq_some_iff, indexed.inverse key id]
  simp only [Table.get?_eq_some_iff, List.mem_map, Prod.mk.injEq, Prod.exists]
  constructor
  · rintro ⟨user, member, same⟩
    exact ⟨id, user, member, same, rfl⟩
  · rintro ⟨found, user, member, same, rfl⟩
    exact ⟨user, member, same⟩

theorem findByEmail_iff (email : String) (user : User) :
    registry.findByEmail email = some user ↔
      registry.Live user ∧ emailKey user.email = emailKey email := by
  rw [findByEmail, Option.bind_eq_some_iff]
  constructor
  · rintro ⟨id, entry, found⟩
    obtain ⟨owner, held, same⟩ := (indexed.inverse (emailKey email) id).mp entry
    obtain rfl := Option.some.inj (held.symm.trans found)
    exact ⟨(indexed.live_iff owner).mpr ⟨id, held⟩, same⟩
  · rintro ⟨live, same⟩
    exact ⟨user.id, (indexed.inverse (emailKey email) user.id).mpr ⟨user, live, same⟩, live⟩

theorem taken_iff (key : String) :
    registry.byEmail.get? key ≠ none ↔ ∃ user, registry.Live user ∧ emailKey user.email = key := by
  rw [Option.ne_none_iff_exists']
  constructor
  · rintro ⟨id, entry⟩
    obtain ⟨user, found, same⟩ := (indexed.inverse key id).mp entry
    exact ⟨user, (indexed.live_iff user).mpr ⟨id, found⟩, same⟩
  · rintro ⟨user, live, same⟩
    exact ⟨user.id, (indexed.inverse key user.id).mpr ⟨user, live, same⟩⟩

/-! ## Adding and removing -/

/-- Adding a user fails if and only if some user has the address, and then nothing changes. -/
theorem create_fails_iff (id : Uuid) (now : Instant) (new : NewUser) :
    ((∃ failure, (registry.create id now new).1 = .error failure) ↔
        ∃ user, registry.Live user ∧ emailKey user.email = emailKey new.email) ∧
      ∀ failure, (registry.create id now new).1 = .error failure →
        registry.create id now new = (.error .emailTaken, registry) := by
  rw [← indexed.taken_iff]
  rcases registry.create_gains id now new with ⟨taken, same⟩ | ⟨after, same, free, -⟩
  · rw [same]
    exact ⟨iff_of_true ⟨_, rfl⟩ taken, fun _ _ => rfl⟩
  · rw [same]
    refine ⟨iff_of_false ?_ (fun taken => taken free), ?_⟩
    · rintro ⟨failure, failed⟩
      cases failed
    · intro failure failed
      cases failed

theorem create (id : Uuid) (now : Instant) (new : NewUser)
    (unused : registry.users.get? id = none) : (registry.create id now new).2.Indexed := by
  rcases registry.create_gains id now new with ⟨-, same⟩ | ⟨after, same, free, rfl⟩
  · rw [same]
    exact indexed
  · rw [same]
    simp only at free ⊢
    constructor
    case named =>
      intro other user found
      rw [Table.get?_put] at found
      split at found
      · rename_i here
        obtain rfl := Option.some.inj found
        exact here.symm
      · exact indexed.named other user found
    case inverse =>
      intro key other
      simp only [Table.get?_put]
      by_cases own : key = emailKey new.email
      · subst own
        rw [if_pos rfl]
        constructor
        · intro entry
          obtain rfl := Option.some.inj entry
          exact ⟨_, if_pos rfl, rfl⟩
        · rintro ⟨user, found, same⟩
          split at found
          · rename_i here
            rw [here]
          · -- an old user under the new address would have kept it from being free
            rw [(indexed.inverse _ other).mpr ⟨user, found, same⟩] at free
            cases free
      · rw [if_neg own, indexed.inverse key other]
        refine exists_congr fun user => ?_
        by_cases here : other = id
        · subst here
          rw [if_pos rfl, unused]
          constructor
          · rintro ⟨found, -⟩
            cases found
          · rintro ⟨found, same⟩
            obtain rfl := Option.some.inj found
            exact absurd same.symm own
        · rw [if_neg here]

theorem remove (id : Uuid) : (registry.remove id).2.Indexed := by
  rcases registry.remove_cases id with ⟨-, same⟩ | ⟨leaver, held, same⟩
  · rw [same]
    exact indexed
  · rw [same]
    constructor
    case named =>
      intro other user found
      rw [Table.get?_erase] at found
      split at found
      · cases found
      · exact indexed.named other user found
    case inverse =>
      intro key other
      simp only [Table.get?_erase]
      by_cases own : key = emailKey leaver.email
      · subst own
        rw [if_pos rfl]
        refine iff_of_false (fun entry => by cases entry) ?_
        rintro ⟨user, found, same⟩
        split at found
        · cases found
        · rename_i apart
          -- the entry of the address leads to one identifier only
          have entry := (indexed.inverse _ other).mpr ⟨user, found, same⟩
          rw [(indexed.inverse _ id).mpr ⟨leaver, held, rfl⟩] at entry
          exact apart (Option.some.inj entry).symm
      · rw [if_neg own, indexed.inverse key other]
        refine exists_congr fun user => ?_
        by_cases here : other = id
        · subst here
          rw [if_pos rfl, held]
          refine iff_of_false ?_ (fun both => by cases both.1)
          rintro ⟨found, same⟩
          obtain rfl := Option.some.inj found
          exact own same.symm
        · rw [if_neg here]

theorem remove_live (user : User) (live : registry.Live user) :
    let left := (registry.remove user.id).2
    left.findById user.id = none ∧
      (∀ id, id ≠ user.id → left.findById id = registry.findById id) ∧
      (∀ email, left.findByEmail email =
        if emailKey email = emailKey user.email then none else registry.findByEmail email) ∧
      ∀ id now new, emailKey new.email = emailKey user.email →
        ∃ joined, (left.create id now new).1 = .ok joined := by
  intro left
  have leaves : left = ⟨registry.users.erase user.id,
      registry.byEmail.erase (emailKey user.email)⟩ := by
    rcases registry.remove_cases user.id with ⟨absent, -⟩ | ⟨leaver, held, same⟩
    · cases absent.symm.trans live
    · obtain rfl := Option.some.inj (held.symm.trans live)
      exact congrArg Prod.snd same
  have byId : ∀ id, left.findById id = if id = user.id then none else registry.findById id := by
    intro id
    rw [leaves]
    exact Table.get?_erase _ _ _
  have byEmail : ∀ email, left.findByEmail email =
      if emailKey email = emailKey user.email then none else registry.findByEmail email := by
    intro email
    split
    · rename_i own
      rw [findByEmail, leaves, Table.get?_erase, if_pos own]
      rfl
    · rename_i apart
      apply Option.ext
      intro found
      rw [(indexed.remove user.id).findByEmail_iff, indexed.findByEmail_iff]
      refine and_congr_left fun same => ?_
      rw [Live, Live, byId]
      by_cases here : found.id = user.id
      · rw [if_pos here, here]
        refine iff_of_false (fun gone => by cases gone) fun stored => apart ?_
        rw [← same, Option.some.inj (stored.symm.trans live)]
      · rw [if_neg here]
  refine ⟨by rw [byId, if_pos rfl], fun id apart => by rw [byId, if_neg apart], byEmail, ?_⟩
  intro id now new same
  rcases left.create_gains id now new with ⟨taken, -⟩ | ⟨after, joined, -⟩
  · obtain ⟨owner, stored, owns⟩ := ((indexed.remove user.id).taken_iff _).mp taken
    have found := ((indexed.remove user.id).findByEmail_iff new.email owner).mpr ⟨stored, owns⟩
    rw [byEmail, if_pos same] at found
    cases found
  · exact ⟨_, congrArg Prod.fst joined⟩

end Indexed

/-! ## Rows of actions -/

/-- What a user store is asked to do. -/
inductive Action
  | create (new : NewUser) (now : Instant)
  | remove (id : Uuid)
  | findByEmail (email : String)
  | findById (id : Uuid)
  deriving DecidableEq, Repr

/-- A registry, and how many identifiers it has given out. -/
structure Stage where
  registry : Registry
  issued : Nat

namespace Stage

variable (ids : Nat → Uuid)

def start : Stage :=
  ⟨.empty, 0⟩

/-- The stage after an action, when new users get these identifiers in order. -/
def after (stage : Stage) : Action → Stage
  | .create new now =>
    match stage.registry.create (ids stage.issued) now new with
    | (.ok _, registry) => ⟨registry, stage.issued + 1⟩
    | (.error _, registry) => ⟨registry, stage.issued⟩
  | .remove id => ⟨(stage.registry.remove id).2, stage.issued⟩
  | .findByEmail _ => stage
  | .findById _ => stage

def afterAll (stage : Stage) (actions : List Action) : Stage :=
  actions.foldl (after ids) stage

/-- The first so many identifiers are all different. -/
def Distinct (bound : Nat) : Prop :=
  ∀ one other, one < bound → other < bound → ids one = ids other → one = other

/-- The index is the inverse of the users, and these have identifiers that were given out. -/
structure Sound (stage : Stage) : Prop where
  indexed : stage.registry.Indexed
  given : ∀ id user, stage.registry.users.get? id = some user →
    ∃ position, position < stage.issued ∧ ids position = id

theorem sound_start : start.Sound ids where
  indexed := indexed_empty
  given _ _ found := by cases found

variable {ids} {stage : Stage} (sound : stage.Sound ids)

include sound

theorem Sound.unused (bound : Nat) (room : stage.issued < bound)
    (distinct : Distinct ids bound) :
    stage.registry.users.get? (ids stage.issued) = none := by
  refine Option.eq_none_iff_forall_ne_some.mpr fun user found => ?_
  obtain ⟨position, early, same⟩ := sound.given _ user found
  have equal := distinct position stage.issued (by omega) room same
  omega

theorem Sound.after (bound : Nat) (room : stage.issued < bound)
    (distinct : Distinct ids bound) (action : Action) :
    (stage.after ids action).Sound ids ∧ (stage.after ids action).issued ≤ stage.issued + 1 := by
  cases action with
  | findByEmail email => exact ⟨sound, Nat.le_succ _⟩
  | findById id => exact ⟨sound, Nat.le_succ _⟩
  | remove id =>
      refine ⟨⟨sound.indexed.remove id, fun other user found => ?_⟩, Nat.le_succ _⟩
      refine sound.given other user ?_
      rcases stage.registry.remove_cases id with ⟨-, same⟩ | ⟨leaver, -, same⟩
      · simpa only [Stage.after, same] using found
      · simp only [Stage.after, same, Table.get?_erase] at found
        split at found
        · cases found
        · exact found
  | create new now =>
      have indexed := sound.indexed.create (ids stage.issued) now new
        (sound.unused bound room distinct)
      rcases stage.registry.create_gains (ids stage.issued) now new with
        ⟨-, same⟩ | ⟨registry, same, -, rfl⟩
      · simp only [Stage.after, same]
        exact ⟨sound, Nat.le_succ _⟩
      · simp only [same] at indexed
        simp only [Stage.after, same]
        refine ⟨⟨indexed, fun id user found => ?_⟩, le_rfl⟩
        rw [Table.get?_put] at found
        split at found
        · rename_i here
          exact ⟨stage.issued, Nat.lt_succ_self _, here.symm⟩
        · obtain ⟨position, early, given⟩ := sound.given id user found
          exact ⟨position, Nat.lt_succ_of_lt early, given⟩

theorem Sound.afterAll (bound : Nat) (actions : List Action)
    (room : stage.issued + actions.length ≤ bound) (distinct : Distinct ids bound) :
    (stage.afterAll ids actions).Sound ids := by
  induction actions generalizing stage with
  | nil => exact sound
  | cons action rest ih =>
      rw [List.length_cons] at room
      obtain ⟨next, issued⟩ := sound.after bound (by omega) distinct action
      exact ih next (by omega)

end Stage

/-- Whatever a store that was empty has been asked to do, with a new identifier for every new user:
its index is the inverse of its users, entry by entry.  So no two users share an address in whatever
case it is written; adding a user fails exactly if the address is taken, and then changes nothing;
and removing a user returns it if it is there, frees its address, and leaves all others to be found
as before. -/
theorem index_mirrors_users (ids : Nat → Uuid) (actions : List Action)
    (distinct : Stage.Distinct ids actions.length) :
    let registry := (Stage.start.afterAll ids actions).registry
    registry.Indexed ∧
      registry.byEmail.entries.Perm
        (registry.users.entries.map fun entry => (emailKey entry.2.email, entry.1)) ∧
      (∀ one other, registry.Live one → registry.Live other →
        emailKey one.email = emailKey other.email → one = other) ∧
      (∀ email user, registry.findByEmail email = some user ↔
        registry.Live user ∧ emailKey user.email = emailKey email) ∧
      (∀ id now new,
        ((∃ failure, (registry.create id now new).1 = .error failure) ↔
          ∃ user, registry.Live user ∧ emailKey user.email = emailKey new.email) ∧
        ∀ failure, (registry.create id now new).1 = .error failure →
          registry.create id now new = (.error .emailTaken, registry)) ∧
      (∀ id user, (registry.remove id).1 = some user ↔ registry.Live user ∧ user.id = id) ∧
      (∀ id, (registry.remove id).1 = none → (registry.remove id).2 = registry) ∧
      ∀ user, registry.Live user →
        let left := (registry.remove user.id).2
        left.findById user.id = none ∧
          (∀ id, id ≠ user.id → left.findById id = registry.findById id) ∧
          (∀ email, left.findByEmail email =
            if emailKey email = emailKey user.email then none
            else registry.findByEmail email) ∧
          ∀ id now new, emailKey new.email = emailKey user.email →
            ∃ joined, (left.create id now new).1 = .ok joined := by
  intro registry
  have indexed : registry.Indexed :=
    ((Stage.sound_start ids).afterAll actions.length actions (by simp [Stage.start]) distinct).indexed
  refine ⟨indexed, indexed.perm, indexed.unshared, indexed.findByEmail_iff,
    indexed.create_fails_iff, fun id user => ?_, fun id gone => ?_, indexed.remove_live⟩
  · rw [registry.fst_remove]
    constructor
    · intro found
      obtain rfl := indexed.named id user found
      exact ⟨found, rfl⟩
    · rintro ⟨live, rfl⟩
      exact live
  · rcases registry.remove_cases id with ⟨-, same⟩ | ⟨user, -, same⟩
    · rw [same]
    · rw [same] at gone
      cases gone

/-- Capitals that end in a sigma are one address with the small letters that end in a final sigma, and
another one with those that do not; the first owner is removed and joins again. -/
theorem index_mirrors_users_sigma :
    let ids : Nat → Uuid := fun position => ⟨BitVec.ofNat 128 position⟩
    let actions : List Action :=
      [.create ⟨"odos", "ΟΔΟΣ@example.org", "hash"⟩ .epoch,
        .create ⟨"copy", "οδος@example.org", "hash"⟩ .epoch,
        .create ⟨"other", "οδοσ@example.org", "hash"⟩ .epoch, .remove ⟨0⟩, .remove ⟨0⟩,
        .findByEmail "οδος@example.org", .create ⟨"again", "Οδος@example.org", "hash"⟩ .epoch]
    let registry := (Stage.start.afterAll ids actions).registry
    let again : User := ⟨⟨2⟩, "again", "Οδος@example.org", "hash", .epoch⟩
    Stage.Distinct ids actions.length ∧
      registry.byEmail.entries.length = 2 ∧
      (∃ failure, (registry.create ⟨3⟩ .epoch ⟨"late", "ΟΔΟΣ@EXAMPLE.ORG", "hash"⟩).1 =
        .error failure) ∧
      (registry.remove ⟨2⟩).1 = some again ∧
      (registry.remove ⟨2⟩).2.findByEmail "ΟΔΟΣ@EXAMPLE.ORG" = none ∧
      (registry.remove ⟨2⟩).2.findByEmail "ΟΔΟσ@EXAMPLE.ORG" =
        registry.findByEmail "ΟΔΟσ@EXAMPLE.ORG" := by
  intro ids actions registry again
  have distinct : Stage.Distinct ids actions.length := by
    intro one other first second same
    have numbers := congrArg (fun id : Uuid => id.value.toNat) same
    simp only [ids, actions, List.length_cons, List.length_nil, BitVec.toNat_ofNat] at first second numbers
    omega
  have live : registry.Live again := by
    unfold Live
    decide +kernel
  obtain ⟨-, turned, -, -, created, removed, -, leaves⟩ := index_mirrors_users ids actions distinct
  obtain ⟨-, -, looked, -⟩ := leaves again live
  refine ⟨distinct, ?_, ?_, (removed ⟨2⟩ again).mpr ⟨live, rfl⟩, ?_, ?_⟩
  · rw [turned.length_eq]
    decide +kernel
  · exact (created ⟨3⟩ .epoch ⟨"late", "ΟΔΟΣ@EXAMPLE.ORG", "hash"⟩).1.mpr
      ⟨again, live, by decide +kernel⟩
  · rw [show (⟨2⟩ : Uuid) = again.id from rfl, looked, if_pos (by decide +kernel)]
  · rw [show (⟨2⟩ : Uuid) = again.id from rfl, looked, if_neg (by decide +kernel)]

end Gatehouse.Registry

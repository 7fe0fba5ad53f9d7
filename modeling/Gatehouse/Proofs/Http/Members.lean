import Gatehouse.Proofs.Account.AddressIndex
import Gatehouse.Proofs.Http.Forms
import Gatehouse.Proofs.Http.Newcomers

/-!
# Who has signed up is stored

A run of the service begins with nobody stored.  Requests come in and are
underway side by side, users are removed, and time passes.  In every state of a
run, every user is one whom the rules for signing up allow, and every signup that
has been answered with 201 has its user in the registry, unless that user has
been removed (`Run.roster`).
-/

set_option autoImplicit false

namespace Gatehouse

open Service

namespace Registry

theorem Gains.live (before after : Registry) (joiner : User) (gains : before.Gains joiner after)
    (fresh : before.users.get? joiner.id = none) (user : User) (live : before.Live user) :
    after.Live user := by
  obtain ⟨-, rfl⟩ := gains
  have apart : user.id ≠ joiner.id := by
    intro same
    rw [Live, findById, same] at live
    cases fresh.symm.trans live
  rw [Live, findById, Table.get?_put, if_neg apart]
  exact live

theorem Gains.joiner_live (before after : Registry) (joiner : User)
    (gains : before.Gains joiner after) : after.Live joiner := by
  obtain ⟨-, rfl⟩ := gains
  rw [Live, findById, Table.get?_put, if_pos rfl]

theorem live_remove (registry : Registry) (user : User) (live : registry.Live user) (id : Uuid) :
    (registry.remove id).2.Live user ∨ (registry.remove id).1 = some user := by
  rcases registry.remove_cases id with ⟨-, same⟩ | ⟨leaver, held, same⟩
  · rw [same]
    exact Or.inl live
  · rw [same]
    by_cases here : user.id = id
    · rw [Live, findById, here, held] at live
      exact Or.inr live
    · refine Or.inl ?_
      rw [Live, findById, Table.get?_erase, if_neg here]
      exact live

theorem users_remove (registry : Registry) (id other : Uuid) (user : User)
    (found : (registry.remove id).2.users.get? other = some user) :
    registry.users.get? other = some user := by
  rcases registry.remove_cases id with ⟨-, same⟩ | ⟨leaver, held, same⟩
  · rw [same] at found
    exact found
  · rw [same, Table.get?_erase] at found
    split at found
    · cases found
    · exact found

end Registry

/-- What the rules for signing up ask of a user. -/
structure User.Fit (user : User) : Prop where
  least : 3 ≤ user.name.length
  most : user.name.length ≤ 100
  email : Email.valid user.email = true

/-- The same world, once the user under the identifier has been removed. -/
def Service.World.without {ν : Type} (world : World ν) (id : Uuid) : World ν :=
  { world with registry := (world.registry.remove id).2 }

/-- What a user was stored with. -/
def User.asNew (user : User) : NewUser :=
  ⟨user.name, user.email, user.passwordHash⟩

namespace Http

theorem Request.Suits.fit (hasher : Hasher) (request : Request) (user : User)
    (suits : request.Suits hasher user.asNew) : user.Fit := by
  obtain ⟨form, accepted, name, email, -⟩ := suits
  obtain ⟨-, keeps⟩ := (request.form_eq_ok_iff form).mp accepted
  obtain ⟨valid, ⟨least, most⟩, -⟩ := form.keeps_iff.mp keeps
  change user.name = form.name at name
  change user.email = form.email at email
  rw [← name] at least most
  rw [← email] at valid
  exact ⟨least, most, valid⟩

/-! ## Runs -/

section

variable {ν : Type} [Throttle.Arithmetic ν] (surroundings : Surroundings)
  (settings : Config.Settings)

/-- The service starts with nobody stored.  Requests arrive, in the order in which they are listed, and
are underway side by side.  Users are removed, and whoever has been there and is removed is listed as
well.  Whatever else happens meanwhile, it neither changes the users nor hands out an identifier. -/
inductive Run : List Request → List Uuid → Crew ν Response → Prop
  | start (wall : Instant) (room : Nat) (buckets : Throttle.Buckets ν) :
      Run [] [] ⟨.start wall room buckets, []⟩
  | arrive (requests : List Request) (removed : List Uuid) (crew : Crew ν Response)
      (run : Run requests removed crew) (request : Request) :
      Run (requests ++ [request]) removed ⟨crew.world, crew.flows ++ [respond settings request]⟩
  | turn (requests : List Request) (removed : List Uuid) (crew : Crew ν Response)
      (run : Run requests removed crew) (number : Nat) :
      Run requests removed (crew.after surroundings (.turn number))
  | remove (requests : List Request) (removed : List Uuid) (crew : Crew ν Response)
      (run : Run requests removed crew) (id : Uuid) :
      Run requests (removed ++ ((crew.world.registry.remove id).1.map User.id).toList)
        ⟨crew.world.without id, crew.flows⟩
  | drift (requests : List Request) (removed : List Uuid) (crew : Crew ν Response)
      (run : Run requests removed crew) (later : World ν)
      (registry : later.registry = crew.world.registry)
      (issued : later.issued = crew.world.issued) :
      Run requests removed ⟨later, crew.flows⟩

theorem Run.turns (requests : List Request) (removed : List Uuid) (crew : Crew ν Response)
    (run : Run surroundings settings requests removed crew) (numbers : List Nat) :
    Run surroundings settings requests removed
      (crew.afterAll surroundings (numbers.map .turn)) := by
  induction numbers generalizing crew with
  | nil => exact run
  | cons number numbers ih => exact ih _ (run.turn _ _ _ number)

end

/-! ## The users -/

section

variable {ν : Type} (surroundings : Surroundings)

/-- Users are in step with the index of their addresses, stored under identifiers that have been handed
out, and such as the rules for signing up allow. -/
structure Housed (world : World ν) : Prop where
  indexed : world.registry.Indexed
  given : ∀ id user, world.registry.users.get? id = some user → world.HandedOut surroundings id
  fit : ∀ id user, world.registry.users.get? id = some user → user.Fit

namespace Housed

variable {surroundings} {world : World ν} (housed : Housed surroundings world)

include housed

theorem unused (distinct : surroundings.Distinct (world.issued + 1)) :
    world.registry.users.get? (surroundings.ids world.issued) = none := by
  refine Option.eq_none_iff_forall_ne_some.mpr fun user found => ?_
  obtain ⟨position, early, same⟩ := housed.given _ user found
  have equal := distinct position world.issued (by omega) (by omega) same
  omega

theorem later (later : World ν) (registry : later.registry = world.registry)
    (issued : world.issued ≤ later.issued) : Housed surroundings later := by
  refine ⟨registry ▸ housed.indexed, fun id user found => ?_, registry ▸ housed.fit⟩
  rw [registry] at found
  exact (housed.given id user found).later surroundings _ _ issued

theorem without (id : Uuid) : Housed surroundings (world.without id) := by
  refine ⟨housed.indexed.remove id, fun other user found => ?_, fun other user found => ?_⟩
  · exact housed.given other user (world.registry.users_remove id other user found)
  · exact housed.fit other user (world.registry.users_remove id other user found)

theorem joined (new : NewUser) (user : User) (later : World ν)
    (joins : world.Joined surroundings new user later) (fit : user.Fit)
    (distinct : surroundings.Distinct later.issued) : Housed surroundings later := by
  rw [joins.issued] at distinct
  have indexed := housed.indexed.create _ world.wall new (housed.unused distinct)
  rw [joins.created] at indexed
  obtain ⟨-, -, puts⟩ := joins.gains
  have own : later.registry.users = world.registry.users.put user.id user := by rw [puts]
  refine ⟨indexed, fun id other found => ?_, fun id other found => ?_⟩
  · rw [own, Table.get?_put] at found
    split at found
    · rename_i here
      rw [here]
      exact joins.handedOut
    · exact (housed.given id other found).later surroundings _ _ (joins.issued ▸ Nat.le_succ _)
  · rw [own, Table.get?_put] at found
    split at found
    · cases found
      exact fit
    · exact housed.fit id other found

end Housed

end

/-! ## The requests -/

variable {ν : Type} (surroundings : Surroundings)

/-- The flow of a request has brought in nobody yet, or a user whom the request suits and who is
stored unless removed. -/
def Request.Underway (registry : Registry) (removed : List Uuid) (request : Request)
    (flow : Flow Response) : Prop :=
  ∃ joined, flow.Recruits surroundings.hasher (request.Suits surroundings.hasher)
      request.Answered joined ∧
    ∀ user, joined = some user → request.Suits surroundings.hasher user.asNew ∧
      (registry.Live user ∨ user.id ∈ removed)

theorem Request.Underway.later (before after : Registry) (removed more : List Uuid)
    (request : Request) (flow : Flow Response)
    (underway : request.Underway surroundings before removed flow)
    (stays : ∀ user, before.Live user → after.Live user ∨ user.id ∈ more)
    (grows : ∀ id ∈ removed, id ∈ more) : request.Underway surroundings after more flow := by
  obtain ⟨joined, recruits, known⟩ := underway
  refine ⟨joined, recruits, fun user is => ?_⟩
  obtain ⟨suits, live | gone⟩ := known user is
  · exact ⟨suits, stays user live⟩
  · exact ⟨suits, Or.inr (grows user.id gone)⟩

/-- The users are housed, and every request is underway, with the flow of its number. -/
structure Roster (requests : List Request) (removed : List Uuid) (crew : Crew ν Response) :
    Prop where
  housed : Housed surroundings crew.world
  numbered : crew.flows.length = requests.length
  underway : crew.Every fun number flow => ∀ request, requests[number]? = some request →
    request.Underway surroundings crew.world.registry removed flow

namespace Roster

variable {surroundings} {requests : List Request} {removed : List Uuid} {crew : Crew ν Response}
  (roster : Roster surroundings requests removed crew)

include roster

theorem arrive (settings : Config.Settings) (request : Request) :
    Roster surroundings (requests ++ [request]) removed
      ⟨crew.world, crew.flows ++ [respond settings request]⟩ := by
  refine ⟨roster.housed, by simp [roster.numbered], fun number flow present other asked => ?_⟩
  rcases Nat.lt_trichotomy number requests.length with early | last | late
  · rw [List.getElem?_append_left early] at asked
    rw [List.getElem?_append_left (roster.numbered ▸ early)] at present
    exact roster.underway number flow present other asked
  · subst last
    rw [List.getElem?_concat_length] at asked
    rw [← roster.numbered, List.getElem?_concat_length] at present
    cases asked
    cases present
    exact ⟨none, recruits_respond _ settings request, by rintro user ⟨⟩⟩
  · rw [List.getElem?_eq_none (by simp; omega)] at asked
    cases asked

theorem remove (id : Uuid) :
    Roster surroundings requests
      (removed ++ ((crew.world.registry.remove id).1.map User.id).toList)
      ⟨crew.world.without id, crew.flows⟩ := by
  refine ⟨roster.housed.without id, roster.numbered, fun number flow present request asked => ?_⟩
  refine (roster.underway number flow present request asked).later surroundings _ _ _ _ _ _
    (fun user live => ?_) fun gone inside => List.mem_append_left _ inside
  rcases crew.world.registry.live_remove user live id with stays | leaves
  · exact Or.inl stays
  · exact Or.inr (List.mem_append_right _ (by simp [leaves]))

theorem drift (later : World ν) (registry : later.registry = crew.world.registry)
    (issued : later.issued = crew.world.issued) :
    Roster surroundings requests removed ⟨later, crew.flows⟩ := by
  refine ⟨roster.housed.later later registry issued.ge, roster.numbered, ?_⟩
  have underway := roster.underway
  rw [← registry] at underway
  exact underway

variable [Throttle.Arithmetic ν]

theorem turn (honest : surroundings.hasher.Honest) (number : Nat)
    (distinct : surroundings.Distinct (crew.after surroundings (.turn number)).world.issued) :
    Roster surroundings requests removed (crew.after surroundings (.turn number)) := by
  cases present : crew.flows[number]? with
  | none =>
      rw [crew.after_turn_absent surroundings number present]
      exact roster
  | some flow =>
      have listed : number < requests.length := by
        rw [← roster.numbered]
        exact (List.getElem?_eq_some_iff.mp present).1
      have asked := List.getElem?_eq_getElem listed
      generalize requests[number] = request at asked
      obtain ⟨joined, recruits, known⟩ := roster.underway number flow present request asked
      have every := crew.every_after_turn surroundings number flow present
      have turns := crew.after_turn surroundings number flow present
      generalize crew.after surroundings (.turn number) = after at distinct every turns ⊢
      subst turns
      have numbered : (crew.flows.set number (flow.turn surroundings crew.world).1).length =
          requests.length := by
        rw [List.length_set, roster.numbered]
      rcases recruits.turn surroundings honest flow joined crew.world with
        ⟨rest, registry, issued⟩ | ⟨new, user, suits, joins, rest⟩
      · -- Nobody joins, and every request knows what it knew.
        refine ⟨roster.housed.later _ registry issued, numbered, every _ ?_ ?_⟩
        · intro same also
          cases asked.symm.trans also
          exact ⟨joined, rest, registry ▸ known⟩
        · intro other stranger _ there
          rw [registry]
          exact roster.underway other stranger there
      · -- A user joins for this request.  Those whom the others brought in stay, since the
        -- identifier is a new one.
        have fresh := roster.housed.unused (joins.issued ▸ distinct)
        obtain ⟨is, gains⟩ := joins.gains
        have suits : request.Suits surroundings.hasher user.asNew := is ▸ suits
        refine ⟨roster.housed.joined new user _ joins suits.fit distinct, numbered, every _ ?_ ?_⟩
        · intro same also
          cases asked.symm.trans also
          refine ⟨some user, rest, fun _ same => ?_⟩
          cases same
          exact ⟨suits, Or.inl gains.joiner_live⟩
        · intro other stranger _ there same also
          refine (roster.underway other stranger there same also).later surroundings _ _ _ _ _ _
            (fun known live => Or.inl ?_) fun _ inside => inside
          exact gains.live _ _ user (by rw [is]; exact fresh) known live

end Roster

/-- In every state of a run in which no identifier has come up twice, the users are housed and every
signup that is answered with 201 has its user in the registry, unless that user has been removed. -/
theorem Run.roster [Throttle.Arithmetic ν] (settings : Config.Settings)
    (honest : surroundings.hasher.Honest) (requests : List Request) (removed : List Uuid)
    (crew : Crew ν Response) (run : Run surroundings settings requests removed crew)
    (distinct : surroundings.Distinct crew.world.issued) :
    Roster surroundings requests removed crew := by
  induction run with
  | start wall room buckets =>
      refine ⟨⟨Registry.indexed_empty, ?_, ?_⟩, rfl, ?_⟩
      · intro id user found
        cases found
      · intro id user found
        cases found
      · intro number flow present
        cases present
  | arrive requests removed crew run request ih => exact (ih distinct).arrive settings request
  | turn requests removed crew run number ih =>
      have issued := crew.issued_after_turn surroundings number
      exact (ih (distinct.mono _ _ _ issued)).turn honest number distinct
  | remove requests removed crew run id ih => exact (ih distinct).remove id
  | drift requests removed crew run later registry issued ih =>
      exact (ih (issued ▸ distinct)).drift later registry issued

end Http

end Gatehouse

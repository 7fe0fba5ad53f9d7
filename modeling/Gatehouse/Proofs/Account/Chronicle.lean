import Gatehouse.Proofs.Account.Admissions
import Gatehouse.Proofs.Account.Roll
import Gatehouse.Proofs.Table

/-!
# Chronicles of accounts

A chronicle is what was asked of the services and what they answered, from the
first request on.  It says who has been removed, and which pairs were granted to
whom, directly or by refreshing.  `Kept` ties it to the registry: whoever was
admitted is still there or has been removed, and whoever has been removed never
comes back, as every identifier is handed out once.
-/

set_option autoImplicit false

namespace Gatehouse.Account

open Service

inductive Action
  | visit (request : Request)
  | refresh (presented : String)
  deriving DecidableEq, Repr

structure Event where
  action : Action
  now : Instant
  deriving DecidableEq, Repr

inductive Answer
  | response (response : Response)
  | renewal (result : Outcome TokenPair)

section

variable {ν : Type} [Throttle.Arithmetic ν]

/-- Presents a refresh token at an instant. -/
def renew (surroundings : Surroundings) (settings : Settings) (world : World ν)
    (presented : String) (now : Instant) : Outcome TokenPair × World ν :=
  (refreshAt settings.label settings.tokens settings.limit presented now).run surroundings
    { world with wall := now }

def answerTo (surroundings : Surroundings) (settings : Settings) (world : World ν)
    (event : Event) : Answer × World ν :=
  match event.action with
  | .visit request =>
    let (response, world) := respond surroundings settings world ⟨request, event.now⟩
    (.response response, world)
  | .refresh presented =>
    let (result, world) := renew surroundings settings world presented event.now
    (.renewal result, world)

/-- The events with their answers, one after the other. -/
def chronicle (surroundings : Surroundings) (settings : Settings) :
    World ν → List Event → List (Event × Answer) × World ν
  | world, [] => ([], world)
  | world, event :: rest =>
    let (answer, world) := answerTo surroundings settings world event
    let (entries, world) := chronicle surroundings settings world rest
    ((event, answer) :: entries, world)

end

/-! ## What a chronicle says -/

/-- The user was there and has been removed. -/
def Removed (past : List (Event × Answer)) (id : Uuid) : Prop :=
  ∃ now user, (⟨.visit (.remove id), now⟩, .response (.removal (some user))) ∈ past

/-- The pair was returned for the user, at a signup, at a login or for the refresh token of a pair
that was, however that token was spelled. -/
inductive Granted (label : String) (past : List (Event × Answer)) : Uuid → TokenPair → Prop
  | admitted (event : Event) (admission : Admission)
      (there : (event, .response (.admission (.ok admission))) ∈ past) :
      Granted label past admission.user.id admission.tokens
  | renewed (id : Uuid) (pair fresh : TokenPair) (granted : Granted label past id pair)
      (presented : String) (now : Instant)
      (same : Token.bare label presented = Token.bare label pair.refreshToken)
      (there : (⟨.refresh presented, now⟩, .renewal (.ok fresh)) ∈ past) :
      Granted label past id fresh

/-- A pair that an answer gives out was signed at its instant, for the user who is admitted or for
the one whose refresh token was presented. -/
def Signed (settings : Settings) : Event × Answer → Prop
  | (event, .response (.admission (.ok admission))) =>
    Token.SignedFor settings.label settings.tokens admission.user.principal event.now
      admission.tokens
  | (event, .renewal (.ok pair)) =>
    ∃ presented, event.action = .refresh presented ∧
      ∃ (claims : RefreshClaims) (principal : Principal),
        Token.verify settings.label presented settings.tokens.refreshSecret event.now =
            .ok claims ∧
          principal.id = claims.subject ∧
          Token.SignedFor settings.label settings.tokens principal event.now pair
  | _ => True

/-- Nobody is let in and nobody is removed. -/
def Answer.Idle : Answer → Prop
  | .response (.admission (.ok _)) => False
  | .response (.removal (some _)) => False
  | _ => True

/-- The identifier is among the first that were handed out. -/
def Given (surroundings : Surroundings) (issued : Nat) (id : Uuid) : Prop :=
  ∃ position, position < issued ∧ surroundings.ids position = id

theorem Given.mono (surroundings : Surroundings) (issued later : Nat) (id : Uuid)
    (given : Given surroundings issued id) (more : issued ≤ later) :
    Given surroundings later id := by
  obtain ⟨position, early, same⟩ := given
  exact ⟨position, by omega, same⟩

theorem removed_snoc_iff (past : List (Event × Answer)) (entry : Event × Answer) (id : Uuid) :
    Removed (past ++ [entry]) id ↔ Removed past id ∨
      ∃ now user, entry = (⟨.visit (.remove id), now⟩, .response (.removal (some user))) := by
  simp only [Removed, List.mem_append, List.mem_singleton]
  constructor
  · rintro ⟨now, user, before | here⟩
    · exact Or.inl ⟨now, user, before⟩
    · exact Or.inr ⟨now, user, here.symm⟩
  · rintro (⟨now, user, before⟩ | ⟨now, user, here⟩)
    · exact ⟨now, user, Or.inl before⟩
    · exact ⟨now, user, Or.inr here.symm⟩

/-! ## The chronicle and the registry -/

/-- What a chronicle and the registry at its end have to do with each other. -/
structure Kept (surroundings : Surroundings) (settings : Settings) (past : List (Event × Answer))
    (registry : Registry) (issued : Nat) : Prop where
  own : ∀ id user, registry.users.get? id = some user → user.id = id
  given : ∀ id user, registry.users.get? id = some user → Given surroundings issued id
  gone : ∀ id, Removed past id →
    registry.users.get? id = none ∧ Given surroundings issued id
  admitted : ∀ event admission, (event, .response (.admission (.ok admission))) ∈ past →
    (∃ user, registry.users.get? admission.user.id = some user) ∨
      Removed past admission.user.id
  signed : ∀ entry ∈ past, Signed settings entry

namespace Kept

variable (surroundings : Surroundings) (settings : Settings) (past : List (Event × Answer))
  (registry : Registry) (issued : Nat)

theorem empty : Kept surroundings settings [] .empty issued where
  own _ _ found := by cases found
  given _ _ found := by cases found
  gone _ removed := by
    obtain ⟨now, user, there⟩ := removed
    cases there
  admitted _ _ there := by cases there
  signed _ there := by cases there

variable (kept : Kept surroundings settings past registry issued) (entry : Event × Answer)
  (sign : Signed settings entry)

include kept sign

theorem signed_snoc : ∀ other ∈ past ++ [entry], Signed settings other := by
  intro other member
  rcases List.mem_append.mp member with before | here
  · exact kept.signed other before
  · obtain rfl := List.mem_singleton.mp here
    exact sign

/-- Whoever is let in is there already, and nobody leaves. -/
theorem still (later : Nat) (more : issued ≤ later)
    (stays : ∀ user, entry.2 ≠ .response (.removal (some user)))
    (known : ∀ admission, entry.2 = .response (.admission (.ok admission)) →
      ∃ user, registry.users.get? admission.user.id = some user) :
    Kept surroundings settings (past ++ [entry]) registry later where
  own := kept.own
  given id user found := (kept.given id user found).mono surroundings issued later id more
  gone id removed := by
    rcases (removed_snoc_iff past entry id).mp removed with before | ⟨now, user, here⟩
    · obtain ⟨absent, given⟩ := kept.gone id before
      exact ⟨absent, given.mono surroundings issued later id more⟩
    · exact absurd (congrArg Prod.snd here) (stays user)
  admitted event admission there := by
    rcases List.mem_append.mp there with before | here
    · exact (kept.admitted event admission before).imp_right fun removed =>
        (removed_snoc_iff past entry _).mpr (Or.inl removed)
    · exact Or.inl (known admission (congrArg Prod.snd (List.mem_singleton.mp here)).symm)
  signed := kept.signed_snoc surroundings settings past registry issued entry sign

theorem idle (later : Nat) (more : issued ≤ later) (idle : entry.2.Idle) :
    Kept surroundings settings (past ++ [entry]) registry later := by
  refine kept.still surroundings settings past registry issued entry sign later more ?_ ?_
  · intro user same
    rw [same] at idle
    exact idle
  · intro admission same
    rw [same] at idle
    exact idle.elim

theorem join (bound : Nat) (distinct : surroundings.Distinct bound) (room : issued < bound)
    (event : Event) (user : User) (pair : TokenPair) (fresh : user.id = surroundings.ids issued)
    (is : entry = (event, .response (.admission (.ok ⟨user, pair⟩)))) (next : Registry)
    (puts : next.users = registry.users.put user.id user) :
    Kept surroundings settings (past ++ [entry]) next (issued + 1) where
  own id found held := by
    rw [puts, Table.get?_put] at held
    split at held
    · rename_i same
      obtain rfl := Option.some.inj held
      exact same.symm
    · exact kept.own id found held
  given id found held := by
    rw [puts, Table.get?_put] at held
    split at held
    · rename_i same
      exact ⟨issued, by omega, fresh.symm.trans same.symm⟩
    · exact (kept.given id found held).mono surroundings issued _ id (by omega)
  gone id removed := by
    rcases (removed_snoc_iff past entry id).mp removed with before | ⟨now, leaver, here⟩
    · obtain ⟨absent, given⟩ := kept.gone id before
      -- whoever has been removed had an earlier identifier, and no two are the same
      have differs : id ≠ user.id := by
        obtain ⟨position, early, same⟩ := given
        intro equal
        have again := distinct position issued (by omega) room
          (same.trans (equal.trans fresh))
        omega
      rw [puts, Table.get?_put, if_neg differs]
      exact ⟨absent, given.mono surroundings issued _ id (by omega)⟩
    · rw [is] at here
      cases here
  admitted other admission there := by
    rw [puts, Table.get?_put]
    by_cases same : admission.user.id = user.id
    · exact Or.inl ⟨user, if_pos same⟩
    · rw [if_neg same]
      rcases List.mem_append.mp there with before | here
      · exact (kept.admitted other admission before).imp_right fun removed =>
          (removed_snoc_iff past entry _).mpr (Or.inl removed)
      · rw [is] at here
        cases List.mem_singleton.mp here
        exact absurd rfl same
  signed := kept.signed_snoc surroundings settings past registry issued entry sign

theorem leave (id : Uuid) (now : Instant) (user : User)
    (found : registry.users.get? id = some user)
    (is : entry = (⟨.visit (.remove id), now⟩, .response (.removal (some user))))
    (next : Registry) (erases : next.users = registry.users.erase id) :
    Kept surroundings settings (past ++ [entry]) next issued where
  own other there held := by
    rw [erases, Table.get?_erase] at held
    split at held
    · cases held
    · exact kept.own other there held
  given other there held := by
    rw [erases, Table.get?_erase] at held
    split at held
    · cases held
    · exact kept.given other there held
  gone other removed := by
    rw [erases, Table.get?_erase]
    rcases (removed_snoc_iff past entry other).mp removed with before | ⟨_, _, here⟩
    · obtain ⟨absent, given⟩ := kept.gone other before
      exact ⟨by rw [absent, ite_self], given⟩
    · rw [is] at here
      cases here
      exact ⟨if_pos rfl, kept.given id user found⟩
  admitted event admission there := by
    rw [erases, Table.get?_erase]
    rcases List.mem_append.mp there with before | here
    · by_cases same : admission.user.id = id
      · exact Or.inr ((removed_snoc_iff past entry _).mpr (Or.inr ⟨now, user, by rw [is, same]⟩))
      · rw [if_neg same]
        exact (kept.admitted event admission before).imp_right fun removed =>
          (removed_snoc_iff past entry _).mpr (Or.inl removed)
    · rw [is] at here
      cases List.mem_singleton.mp here
  signed := kept.signed_snoc surroundings settings past registry issued entry sign

end Kept

end Gatehouse.Account

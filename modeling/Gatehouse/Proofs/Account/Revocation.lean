import Gatehouse.Proofs.Account.Chronicle
import Gatehouse.Proofs.Account.Refinement

/-!
# Refreshing until removal

However many signups, logins, refreshes and removals there were: a refresh token
that any of them returned is exchanged until it expires or its user is removed,
and whoever signs up later, it never names anybody else.  What one answer does to
the registry is `kept_answerTo`, what a chronicle does is `kept_chronicle`; a
granted pair was then signed for a user who is there or has been removed.
-/

set_option autoImplicit false

namespace Gatehouse.Account

open Service

section

variable {ν : Type} [Throttle.Arithmetic ν] (surroundings : Surroundings) (settings : Settings)
  (prompt : surroundings.Prompt settings.limit)

/-! ## One answer -/

section

variable (past : List (Event × Answer)) (world : World ν)
  (kept : Kept surroundings settings past world.registry world.issued)

include kept

include prompt in
theorem kept_signup (bound : Nat) (distinct : surroundings.Distinct bound)
    (room : world.issued < bound) (now : Instant) (issues : settings.Issues now)
    (input : Signup) :
    let answered := answerTo surroundings settings world ⟨.visit (.signup input), now⟩
    Kept surroundings settings (past ++ [(⟨.visit (.signup input), now⟩, answered.1)])
        answered.2.registry answered.2.issued ∧
      answered.2.issued ≤ world.issued + 1 := by
  have enrols := run_signup surroundings settings prompt input { world with wall := now } issues
  rcases run : (signup settings input).run surroundings { world with wall := now } with
    ⟨result, later⟩
  rw [run] at enrols
  dsimp only at enrols
  have answered : answerTo surroundings settings world ⟨.visit (.signup input), now⟩ =
      (.response (.admission result), later) := by
    simp only [answerTo, respond, run]
  rw [answered]
  cases enrols with
  | refused fault later registry least most =>
      refine ⟨?_, most⟩
      simp only [registry]
      refine kept.idle surroundings settings past _ _ _ ?_ _ least ?_
      · exact trivial
      · exact trivial
  | joined user pair later fresh puts gone signed =>
      refine ⟨?_, gone.le⟩
      simp only [gone]
      refine kept.join surroundings settings past _ _ _ ?_ bound distinct room _ user pair fresh
        rfl _ puts
      exact signed

include prompt in
theorem kept_login (now : Instant) (input : Login) :
    let answered := answerTo surroundings settings world ⟨.visit (.login input), now⟩
    Kept surroundings settings (past ++ [(⟨.visit (.login input), now⟩, answered.1)])
        answered.2.registry answered.2.issued ∧
      answered.2.issued ≤ world.issued + 1 := by
  have still := Flow.still_run surroundings _ (quiet_login settings input)
    { world with wall := now }
  rcases run : (login settings input).run surroundings { world with wall := now } with
    ⟨result, later⟩
  rw [run] at still
  have answered : answerTo surroundings settings world ⟨.visit (.login input), now⟩ =
      (.response (.admission result), later) := by
    simp only [answerTo, respond, run]
  rw [answered]
  have registry : later.registry = world.registry := still.registry
  have issued : later.issued = world.issued := still.issued
  simp only [registry, issued]
  refine ⟨?_, Nat.le_succ _⟩
  cases result with
  | error fault =>
      refine kept.idle surroundings settings past _ _ _ ?_ _ le_rfl ?_
      · exact trivial
      · exact trivial
  | ok admission =>
      obtain ⟨⟨id, held⟩, signed⟩ := run_login_eq_ok surroundings settings prompt input _ later
        admission run
      refine kept.still surroundings settings past _ _ _ ?_ _ le_rfl ?_ ?_
      · exact signed
      · intro user same
        cases same
      · intro other same
        cases same
        obtain rfl := kept.own id _ held
        exact ⟨_, held⟩

theorem kept_remove (now : Instant) (id : Uuid) :
    let answered := answerTo surroundings settings world ⟨.visit (.remove id), now⟩
    Kept surroundings settings (past ++ [(⟨.visit (.remove id), now⟩, answered.1)])
        answered.2.registry answered.2.issued ∧
      answered.2.issued ≤ world.issued + 1 := by
  simp only [answerTo, respond, Registry.remove]
  cases found : world.registry.users.get? id with
  | none =>
      refine ⟨?_, Nat.le_succ _⟩
      refine kept.idle surroundings settings past _ _ _ ?_ _ le_rfl ?_
      · exact trivial
      · exact trivial
  | some user =>
      refine ⟨?_, Nat.le_succ _⟩
      refine kept.leave surroundings settings past _ _ _ ?_ id now user found rfl _ rfl
      exact trivial

include prompt in
theorem signed_renew (now : Instant) (presented : String) :
    Signed settings (⟨.refresh presented, now⟩,
      .renewal (renew surroundings settings world presented now).1) := by
  rcases result : (renew surroundings settings world presented now).1 with fault | pair
  · exact trivial
  · refine ⟨presented, rfl, ?_⟩
    rw [renew] at result
    cases verified : (Token.verify settings.label presented settings.tokens.refreshSecret now :
        Outcome RefreshClaims) with
    | error fault =>
        rw [run_refreshAt_refused surroundings settings settings.limit presented now fault
          verified] at result
        cases result
    | ok claims =>
        rw [run_refreshAt_verified surroundings settings prompt presented now claims verified]
          at result
        split at result
        · cases result
        · rename_i user held
          exact ⟨claims, user.principal, rfl, kept.own _ user held,
            (Token.issuePair_eq_ok_iff _ _ _ _ _).mp result⟩

include prompt in
theorem kept_refresh (now : Instant) (presented : String) :
    let answered := answerTo surroundings settings world ⟨.refresh presented, now⟩
    Kept surroundings settings (past ++ [(⟨.refresh presented, now⟩, answered.1)])
        answered.2.registry answered.2.issued ∧
      answered.2.issued ≤ world.issued + 1 := by
  have still := Flow.still_run surroundings _
    (quiet_refreshAt settings.label settings.tokens settings.limit presented now)
    { world with wall := now }
  have registry : (renew surroundings settings world presented now).2.registry =
      world.registry := still.registry
  have issued : (renew surroundings settings world presented now).2.issued = world.issued :=
    still.issued
  simp only [answerTo, registry, issued]
  refine ⟨?_, Nat.le_succ _⟩
  refine kept.idle surroundings settings past _ _ _ ?_ _ le_rfl ?_
  · exact signed_renew surroundings settings prompt past world kept now presented
  · exact trivial

include prompt in
theorem kept_answerTo (bound : Nat) (distinct : surroundings.Distinct bound)
    (room : world.issued < bound) (event : Event) (issues : settings.Issues event.now) :
    let answered := answerTo surroundings settings world event
    Kept surroundings settings (past ++ [(event, answered.1)])
        answered.2.registry answered.2.issued ∧
      answered.2.issued ≤ world.issued + 1 := by
  obtain ⟨action, now⟩ := event
  rcases action with (input | input | id) | presented
  · exact kept_signup surroundings settings prompt past world kept bound distinct room now issues
      input
  · exact kept_login surroundings settings prompt past world kept now input
  · exact kept_remove surroundings settings past world kept now id
  · exact kept_refresh surroundings settings prompt past world kept now presented

end

/-! ## Any number of answers -/

include prompt in
theorem kept_chronicle (bound : Nat) (distinct : surroundings.Distinct bound)
    (events : List Event) (past : List (Event × Answer)) (world : World ν)
    (kept : Kept surroundings settings past world.registry world.issued)
    (room : world.issued + events.length ≤ bound)
    (issues : ∀ event ∈ events, settings.Issues event.now) :
    Kept surroundings settings (past ++ (chronicle surroundings settings world events).1)
      (chronicle surroundings settings world events).2.registry
      (chronicle surroundings settings world events).2.issued := by
  induction events generalizing past world with
  | nil =>
      rw [chronicle, List.append_nil]
      exact kept
  | cons event rest ih =>
      rw [List.length_cons] at room
      obtain ⟨next, few⟩ := kept_answerTo surroundings settings prompt past world kept bound
        distinct (by omega) event (issues event List.mem_cons_self)
      have all := ih _ _ next (by omega) fun later inside =>
        issues later (List.mem_cons_of_mem _ inside)
      rw [List.append_assoc] at all
      exact all

theorem chronicle_events (events : List Event) (world : World ν) :
    (chronicle surroundings settings world events).1.map Prod.fst = events := by
  induction events generalizing world with
  | nil => rfl
  | cons event rest ih => exact congrArg (event :: ·) (ih _)

end

/-! ## Presenting the refresh token of a pair -/

section

variable {ν : Type} [Throttle.Arithmetic ν] (surroundings : Surroundings) (settings : Settings)
  (principal : Principal) (before : Instant) (pair : TokenPair)
  (signed : Token.SignedFor settings.label settings.tokens principal before pair)
  (issues : settings.Issues before) (presented : String)
  (same : Token.bare settings.label presented = Token.bare settings.label pair.refreshToken)
  (world : World ν) (now : Instant)

include signed issues same

theorem renew_expired (ended : pair.refreshExpiresAt.seconds ≤ now.seconds) :
    (renew surroundings settings world presented now).1 = .error (.failure .tokenExpired) := by
  rw [← Token.refreshClaims_ends principal before pair.refreshExpiresAt] at ended
  have refused := signed.refresh_verifies settings.label settings.tokens principal before pair
    issues.refresh presented same now
  rw [Token.unexpired_of_ended now _ ended, Outcome.ofExcept] at refused
  exact run_refreshAt_refused surroundings settings settings.limit presented now _ refused _

theorem renew_live (prompt : surroundings.Prompt settings.limit)
    (live : now.seconds < pair.refreshExpiresAt.seconds) :
    (renew surroundings settings world presented now).1 =
      match world.registry.users.get? principal.id with
      | none => .error (.failure .userNotFound)
      | some user => Token.issuePair settings.label user.principal settings.tokens now := by
  rw [← Token.refreshClaims_ends principal before pair.refreshExpiresAt] at live
  have verified := signed.refresh_verifies settings.label settings.tokens principal before pair
    issues.refresh presented same now
  rw [Token.unexpired_of_live now _ live, Outcome.ofExcept_ok] at verified
  exact run_refreshAt_verified surroundings settings prompt presented now _ verified _

theorem renew_eq_ok_iff (prompt : surroundings.Prompt settings.limit) (fresh : TokenPair) :
    (renew surroundings settings world presented now).1 = .ok fresh ↔
      now.seconds < pair.refreshExpiresAt.seconds ∧
        ∃ user, world.registry.users.get? principal.id = some user ∧
          Token.SignedFor settings.label settings.tokens user.principal now fresh := by
  rcases Int.lt_or_le now.seconds pair.refreshExpiresAt.seconds with live | ended
  · rw [renew_live surroundings settings principal before pair signed issues presented same world
      now prompt live]
    cases world.registry.users.get? principal.id with
    | none => simp
    | some user => simp [live, Token.issuePair_eq_ok_iff]
  · rw [renew_expired surroundings settings principal before pair signed issues presented same
      world now ended]
    simp [Int.not_lt.mpr ended]

end

/-! ## Granted pairs -/

section

variable (surroundings : Surroundings) (settings : Settings) (past : List (Event × Answer))
  (registry : Registry) (issued : Nat)
  (kept : Kept surroundings settings past registry issued) (id : Uuid) (pair : TokenPair)
  (granted : Granted settings.label past id pair)

include kept granted

/-- Along any chain of refreshes, a pair was signed for the user of the first pair: each refresh
token names the user whose it is. -/
theorem Granted.signed (issues : ∀ entry ∈ past, settings.Issues entry.1.now) :
    ∃ principal now, principal.id = id ∧ settings.Issues now ∧
      Token.SignedFor settings.label settings.tokens principal now pair := by
  induction granted with
  | admitted event admission there =>
      exact ⟨admission.user.principal, event.now, rfl, issues _ there, kept.signed _ there⟩
  | renewed id pair fresh granted presented now same there ih =>
      obtain ⟨principal, before, names, issuable, signed⟩ := ih
      obtain ⟨_, action, claims, next, verified, subject, anew⟩ := kept.signed _ there
      cases action
      refine ⟨next, now, ?_, issues _ there, anew⟩
      -- what was presented verifies as the pair before was signed, so both name the same user
      rw [signed.refresh_verifies settings.label settings.tokens principal before pair
        issuable.refresh presented same now, Outcome.ofExcept_eq_ok_iff] at verified
      obtain ⟨-, rfl⟩ := (Token.unexpired_eq_ok_iff _ _ _).mp verified
      rw [subject, ← names]
      rfl

theorem Granted.known :
    (∃ user, registry.users.get? id = some user) ∨ Removed past id := by
  induction granted with
  | admitted event admission there => exact kept.admitted event admission there
  | renewed id pair fresh granted presented now same there ih => exact ih

end

/-- The pair verifies for the user at the instant, and its access token carries the name that the
registry has. -/
def Renews (settings : Settings) (registry : Registry) (id : Uuid) (now : Instant)
    (pair : TokenPair) : Prop :=
  Token.Identifies settings.label settings.tokens now id pair ∧
    ∃ (user : User) (claims : AccessClaims), registry.findById id = some user ∧
      Token.verify settings.label pair.accessToken settings.tokens.accessSecret now = .ok claims ∧
      claims.subject = id ∧ claims.name = user.name

/-- What presenting a refresh token of the user at an instant comes to, when the token expires at
the second `ends`.  Pairs can only be asked for at instants at which they can be issued; being
refused is for ever. -/
structure Redemption (settings : Settings) (registry : Registry) (removed : Prop) (id : Uuid)
    (ends : Int) (now : Instant) (result : Outcome TokenPair) : Prop where
  exchanged : settings.Issues now →
    ((∃ fresh, result = .ok fresh) ↔ now.seconds < ends ∧ ¬ removed)
  renewed : settings.Issues now → ∀ fresh, result = .ok fresh →
    Renews settings registry id now fresh
  gone : removed → now.seconds < ends → result = .error (.failure .userNotFound)
  ended : ends ≤ now.seconds → result = .error (.failure .tokenExpired)

theorem redemption {ν : Type} [Throttle.Arithmetic ν] (surroundings : Surroundings)
    (settings : Settings) (prompt : surroundings.Prompt settings.limit)
    (past : List (Event × Answer)) (world : World ν)
    (kept : Kept surroundings settings past world.registry world.issued) (principal : Principal)
    (before : Instant) (pair : TokenPair)
    (signed : Token.SignedFor settings.label settings.tokens principal before pair)
    (issues : settings.Issues before)
    (known : (∃ user, world.registry.users.get? principal.id = some user) ∨
      Removed past principal.id)
    (presented : String)
    (same : Token.bare settings.label presented = Token.bare settings.label pair.refreshToken)
    (now : Instant) :
    Redemption settings world.registry (Removed past principal.id) principal.id
      pair.refreshExpiresAt.seconds now (renew surroundings settings world presented now).1 := by
  have succeeds := renew_eq_ok_iff surroundings settings principal before pair signed issues
    presented same world now prompt
  constructor
  case exchanged =>
    intro able
    constructor
    · rintro ⟨fresh, exchanged⟩
      obtain ⟨live, user, held, -⟩ := (succeeds fresh).mp exchanged
      refine ⟨live, fun removed => ?_⟩
      rw [(kept.gone principal.id removed).1] at held
      cases held
    · rintro ⟨live, stays⟩
      obtain ⟨user, held⟩ := known.resolve_right stays
      obtain ⟨fresh, -, anew⟩ := Token.issuePair_signed settings.label settings.tokens now
        able.access able.refresh user.principal
      exact ⟨fresh, (succeeds fresh).mpr ⟨live, user, held, anew⟩⟩
  case renewed =>
    intro able fresh exchanged
    obtain ⟨-, user, held, anew⟩ := (succeeds fresh).mp exchanged
    have own : user.principal.id = principal.id := kept.own principal.id user held
    have identifies := anew.identifies settings.label settings.tokens user.principal now fresh
      able.access able.refresh
    obtain ⟨claims, verified, subject, name⟩ := anew.access_verifies settings.label
      settings.tokens user.principal now fresh able.access
    rw [own] at identifies subject
    exact ⟨identifies, user, claims, held, verified, subject, name⟩
  case gone =>
    intro removed live
    rw [renew_live surroundings settings principal before pair signed issues presented same world
      now prompt live, (kept.gone principal.id removed).1]
  case ended =>
    exact renew_expired surroundings settings principal before pair signed issues presented same
      world now

/-- A refresh token that was granted to a user, however long ago and through however many
refreshes, is exchanged for a pair of that user until it expires, as long as the user has not been
removed; once the user is removed nothing that happens later brings it back. -/
theorem refresh_until_removed {ν : Type} [Throttle.Arithmetic ν] (surroundings : Surroundings)
    (settings : Settings) (prompt : surroundings.Prompt settings.limit) (world : World ν)
    (start : world.registry = .empty) (events : List Event)
    (distinct : surroundings.Distinct (world.issued + events.length))
    (issues : ∀ event ∈ events, settings.Issues event.now) (id : Uuid) (pair : TokenPair)
    (granted : Granted settings.label (chronicle surroundings settings world events).1 id pair) :
    ∃ (claims : RefreshClaims) (secret : Secret),
      secret.text = settings.tokens.refreshSecret ∧
      pair.refreshToken = settings.label ++ Token.encode claims secret ∧ claims.subject = id ∧
      claims.expiresAt.toInt = pair.refreshExpiresAt.seconds ∧
      ∀ presented, Token.bare settings.label presented =
          Token.bare settings.label pair.refreshToken → ∀ now,
        Redemption settings (chronicle surroundings settings world events).2.registry
          (Removed (chronicle surroundings settings world events).1 id) id
          claims.expiresAt.toInt now
          (renew surroundings settings (chronicle surroundings settings world events).2 presented
            now).1 := by
  have begun : Kept surroundings settings [] world.registry world.issued := by
    rw [start]
    exact Kept.empty surroundings settings world.issued
  have kept := kept_chronicle surroundings settings prompt _ distinct events [] world begun
    (Nat.le_refl _) issues
  rw [List.nil_append] at kept
  have issued : ∀ entry ∈ (chronicle surroundings settings world events).1,
      settings.Issues entry.1.now := by
    intro entry there
    have member := List.mem_map_of_mem (f := Prod.fst) there
    rw [chronicle_events] at member
    exact issues entry.1 member
  obtain ⟨principal, before, rfl, issuable, signed⟩ :=
    granted.signed surroundings settings _ _ _ kept _ _ issued
  have known := granted.known surroundings settings _ _ _ kept
  obtain ⟨secret, text, token⟩ := signed.refresh
  have ends : (Token.refreshClaims principal before pair.refreshExpiresAt).expiresAt.toInt =
      pair.refreshExpiresAt.seconds := Token.claim_toInt pair.refreshExpiresAt
  refine ⟨_, secret, text, token, rfl, ends, ?_⟩
  intro presented same now
  rw [ends]
  exact redemption surroundings settings prompt _ _ kept principal before pair signed issuable
    known presented same now

/-- Somebody is removed and signs up again at the same address: the old refresh token names
nobody any more. -/
theorem refresh_until_removed_again :
    let world : World Rat := .start .epoch 0 ⟨1, 0, .empty⟩
    let ada : Signup := ⟨"ada", "ada@example.com", "lace"⟩
    let events : List Event := [⟨.visit (.signup ada), .epoch⟩,
      ⟨.visit (.remove (trial.ids 0)), .epoch⟩, ⟨.visit (.signup ada), .epoch⟩]
    trial.Prompt trialSettings.limit ∧ world.registry = .empty ∧
      trial.Distinct (world.issued + events.length) ∧
      (∀ event ∈ events, trialSettings.Issues event.now) ∧
      ∃ pair, Granted trialSettings.label (chronicle trial trialSettings world events).1
          (trial.ids 0) pair ∧
        (renew trial trialSettings (chronicle trial trialSettings world events).2
          pair.refreshToken .epoch).1 = .error (.failure .userNotFound) := by
  intro world ada events
  have distinct : trial.Distinct 3 := by
    intro one other first second same
    have values := congrArg (fun id => id.value.toNat) same
    simp only [trial, BitVec.toNat_ofNat] at values
    omega
  have issues : ∀ event ∈ events, trialSettings.Issues event.now := by
    simp [events, trialSettings_issues]
  obtain ⟨pair, issued, signed⟩ := Token.issuePair_signed trialSettings.label trialSettings.tokens
    .epoch trialSettings_issues.access trialSettings_issues.refresh ⟨trial.ids 0, "ada"⟩
  let user : User := ⟨trial.ids 0, "ada", "ada@example.com", "plain:lace", .epoch⟩
  have answers : ∃ last, (chronicle trial trialSettings world events).1 =
      [(⟨.visit (.signup ada), .epoch⟩, .response (.admission
          (Token.issuePair trialSettings.label ⟨trial.ids 0, "ada"⟩ trialSettings.tokens .epoch
            >>= fun tokens => .ok ⟨user, tokens⟩))),
        (⟨.visit (.remove (trial.ids 0)), .epoch⟩, .response (.removal (some user))), last] :=
    ⟨_, rfl⟩
  obtain ⟨last, answers⟩ := answers
  rw [issued, ok_bind] at answers
  have granted : Granted trialSettings.label (chronicle trial trialSettings world events).1
      (trial.ids 0) pair :=
    .admitted ⟨.visit (.signup ada), .epoch⟩ ⟨user, pair⟩ (by rw [answers]; exact List.mem_cons_self)
  have removed : Removed (chronicle trial trialSettings world events).1 (trial.ids 0) :=
    ⟨.epoch, user, by rw [answers]; exact List.mem_cons_of_mem _ List.mem_cons_self⟩
  obtain ⟨claims, secret, -, -, -, ends, redeems⟩ := refresh_until_removed trial trialSettings
    trial_sound.prompt world rfl events distinct issues _ _ granted
  have lasts := Token.expiry_seconds .epoch _ 2 signed.refreshEnd
  rw [← ends] at lasts
  refine ⟨trial_sound.prompt, rfl, distinct, issues, pair, granted, ?_⟩
  refine (redeems pair.refreshToken rfl .epoch).gone removed ?_
  rw [lasts]
  decide

end Gatehouse.Account

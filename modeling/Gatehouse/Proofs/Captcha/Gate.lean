import Gatehouse.Proofs.Captcha.Accounting
import Gatehouse.Proofs.Captcha.Sessions

/-!
# The gate before the credentials

When challenges are required, a login looks at credentials only after it has
itself taken a session out of the cache that somebody was issued and that nobody
else takes, and after its answer was found right.
-/

set_option autoImplicit false

namespace Gatehouse.Captcha

open Service

namespace Crowd

/-- The party is a login that has asked the user store or the hasher, or is about to. -/
def Reaches (crowd : Crowd) (number : Nat) : Prop :=
  ∃ input rest, crowd.parties[number]? = some (.entering input rest) ∧
    (.credential ∈ crowd.past number ∨ rest.asksCredential = true)

/-- The party is a login with this answer, whose session is a spelling of the identifier. -/
def Presents (crowd : Crowd) (number : Nat) (captcha : Account.CaptchaAnswer) (id : Uuid) :
    Prop :=
  ∃ input rest, crowd.parties[number]? = some (.entering input rest) ∧
    input.captcha = some captcha ∧ Uuid.ofText? (Text.trimmed captcha.session) = some id

/-- The party is issuing a challenge: it got the identifier and sent this session to the cache. -/
def Issued (crowd : Crowd) (number : Nat) (id : Uuid) (stored : String) : Prop :=
  ∃ rest session deed, crowd.parties[number]? = some (.issuing rest) ∧
    stored = Session.text session ∧ deed.posts (Cache.Key.captchaSession id) stored ∧
    crowd.past number = [.dated session.createdAt, .other, .named id, deed]

def Took (crowd : Crowd) (number : Nat) (now : Instant) (id : Uuid) (stored : String) : Prop :=
  ∃ later, crowd.past number =
    .dated now :: .took (Cache.Key.captchaSession id) (some stored) :: later

/-- The party waits for a reply, or is over with the failure of a session that is gone or of a cache
that failed it. -/
def TurnedAway (crowd : Crowd) (number : Nat) (id : Uuid) : Prop :=
  (crowd.past number).length < 2 ∨ ∃ input failure,
    crowd.parties[number]? = some (.entering input (.stop failure)) ∧
      (failure.kind = .expired ∨ failure.kind = .unavailable ∧
        .missed (Cache.Key.captchaSession id) ∈ crowd.past number)

theorem Reachable.attempt (settings : Account.Settings)
    (required : settings.captchaRequired = true) (crowd : Crowd)
    (reached : Reachable settings crowd) (number : Nat) (input : Account.Login)
    (rest : Flow (Outcome Account.Admission))
    (present : crowd.parties[number]? = some (.entering input rest)) :
    Account.Attempt settings input (crowd.past number) rest :=
  Account.attempt_of_path settings input required _ rest
    (reached.follows settings crowd number _ present)

theorem Took.mem_history (crowd : Crowd) (number : Nat) (now : Instant) (id : Uuid)
    (stored : String) (took : crowd.Took number now id stored) :
    (number, .took (Cache.Key.captchaSession id) (some stored)) ∈ crowd.history := by
  obtain ⟨later, past⟩ := took
  exact (crowd.mem_past_iff number _).mp (by simp [past])

theorem Reachable.took_of_reaches (settings : Account.Settings)
    (required : settings.captchaRequired = true) (crowd : Crowd)
    (reached : Reachable settings crowd) (number : Nat) (reaches : crowd.Reaches number) :
    ∃ captcha id now stored, crowd.Presents number captcha id ∧
      crowd.Took number now id stored ∧ verdict stored captcha.answer now = .ok () := by
  obtain ⟨input, rest, present, looks⟩ := reaches
  have attempt := reached.attempt settings required crowd number input rest present
  obtain ⟨captcha, id, now, stored, later, answered, read, past, right⟩ :=
    attempt.of_credential settings input _ rest looks
  exact ⟨captcha, id, now, stored, ⟨input, rest, present, answered, read⟩, ⟨later, past⟩, right⟩

theorem Reachable.issued_of_took (settings : Account.Settings)
    (required : settings.captchaRequired = true) (crowd : Crowd)
    (reached : Reachable settings crowd) (number : Nat) (id : Uuid) (stored : String)
    (taken : (number, .took (Cache.Key.captchaSession id) (some stored)) ∈ crowd.history) :
    ∃ issuer, crowd.Issued issuer id stored := by
  obtain ⟨issuer, deed, done, posts⟩ :=
    reached.origin settings crowd id stored (Or.inr (Or.inr ⟨number, taken⟩))
  obtain ⟨party, present⟩ := reached.present settings crowd issuer deed done
  obtain ⟨⟨rest, rfl⟩, session, named, sameKey, text, past⟩ :=
    (reached.follows settings crowd issuer party present).posts settings required party _ deed
      ((crowd.mem_past_iff issuer deed).mpr done) _ stored posts
  obtain rfl := Cache.Key.captchaSession_injective id named sameKey
  exact ⟨issuer, rest, session, deed, present, text, posts, past⟩

theorem Reachable.turned_away (settings : Account.Settings)
    (required : settings.captchaRequired = true) (crowd : Crowd)
    (reached : Reachable settings crowd) (taker other : Nat) (id : Uuid) (stored : String)
    (taken : (taker, .took (Cache.Key.captchaSession id) (some stored)) ∈ crowd.history)
    (differs : other ≠ taker) (captcha : Account.CaptchaAnswer)
    (presents : crowd.Presents other captcha id) : crowd.TurnedAway other id := by
  obtain ⟨input, rest, present, answered, read⟩ := presents
  have attempt := reached.attempt settings required crowd other input rest present
  have empty : ∀ found,
      .took (Cache.Key.captchaSession id) (some found) ∉ crowd.past other := by
    intro found again
    have same := reached.taken_once settings required crowd id other taker found stored
      ((crowd.mem_past_iff other _).mp again) taken
    exact differs same.1
  rcases attempt.of_not_taken settings input _ rest captcha answered id read empty with
    waits | ⟨failure, rfl, cause⟩
  · exact Or.inl waits
  · exact Or.inr ⟨input, failure, present, cause⟩

theorem Presents.unique (crowd : Crowd) (number : Nat) (captcha also : Account.CaptchaAnswer)
    (id other : Uuid) (presents : crowd.Presents number captcha id)
    (alike : crowd.Presents number also other) : captcha = also ∧ id = other := by
  obtain ⟨input, rest, present, answered, read⟩ := presents
  obtain ⟨same, left, there, given, spelled⟩ := alike
  obtain ⟨rfl, -⟩ := Party.entering.inj (Option.some.inj (present.symm.trans there))
  obtain rfl := Option.some.inj (answered.symm.trans given)
  exact ⟨rfl, Option.some.inj (read.symm.trans spelled)⟩

theorem Reachable.took_of_presents (settings : Account.Settings)
    (required : settings.captchaRequired = true) (crowd : Crowd)
    (reached : Reachable settings crowd) (number : Nat) (captcha : Account.CaptchaAnswer)
    (id : Uuid) (presents : crowd.Presents number captcha id) (reaches : crowd.Reaches number) :
    ∃ now stored, crowd.Took number now id stored ∧
      verdict stored captcha.answer now = .ok () := by
  obtain ⟨named, other, now, stored, also, took, right⟩ :=
    reached.took_of_reaches settings required crowd number reaches
  obtain ⟨rfl, rfl⟩ := presents.unique crowd number captcha named id other also
  exact ⟨now, stored, took, right⟩

theorem Reachable.reaches_of_took (settings : Account.Settings)
    (required : settings.captchaRequired = true) (crowd : Crowd)
    (reached : Reachable settings crowd) (taker : Nat) (now : Instant) (id : Uuid)
    (stored : String) (took : crowd.Took taker now id stored) (number : Nat)
    (captcha : Account.CaptchaAnswer) (presents : crowd.Presents number captcha id)
    (reaches : crowd.Reaches number) :
    number = taker ∧ verdict stored captcha.answer now = .ok () := by
  obtain ⟨instant, found, also, right⟩ :=
    reached.took_of_presents settings required crowd number captcha id presents reaches
  obtain ⟨rfl, rfl⟩ := reached.taken_once settings required crowd id number taker found stored
    also.mem_history took.mem_history
  obtain ⟨later, past⟩ := took
  obtain ⟨rest, same⟩ := also
  have heads := List.head_eq_of_cons_eq (past.symm.trans same)
  obtain rfl := Deed.dated.inj heads
  exact ⟨rfl, right⟩

/-! ## The gate opens -/

def afterDeeds (crowd : Crowd) (number : Nat) (deeds : List Deed) (left : Party) : Crowd :=
  ⟨deeds.foldl Shelf.after crowd.shelf, crowd.parties.set number left,
    crowd.history ++ deeds.map fun deed => (number, deed)⟩

def AdmitsAll (crowd : Crowd) (number : Nat) : List Deed → Prop
  | [] => True
  | deed :: deeds =>
    crowd.Admits deed ∧
      AdmitsAll ⟨crowd.shelf.after deed, crowd.parties, crowd.history ++ [(number, deed)]⟩ number
        deeds

theorem AdmitsAll.set_parties (crowd : Crowd) (number : Nat) (deeds : List Deed)
    (admitted : crowd.AdmitsAll number deeds) (parties : List Party) :
    AdmitsAll ⟨crowd.shelf, parties, crowd.history⟩ number deeds := by
  induction deeds generalizing crowd with
  | nil => exact trivial
  | cons deed deeds ih =>
      refine ⟨?_, ih _ admitted.2⟩
      have first := admitted.1
      cases deed <;> exact first

/-- A party can go along any path of its flow that is allowed. -/
theorem Reachable.walk (settings : Account.Settings) {α : Type} (party : Flow α → Party)
    (steps : ∀ {β : Type} (call : Call β) (next : β → Flow α) (reply : β),
      (party (.ask call next)).Answered (call.deed reply) (party (next reply)))
    (number : Nat) (deeds : List Deed) (rest : Flow α) (crowd : Crowd)
    (reached : Reachable settings crowd) (flow : Flow α)
    (present : crowd.parties[number]? = some (party flow)) (path : flow.Path deeds rest)
    (admitted : crowd.AdmitsAll number deeds) :
    Reachable settings (crowd.afterDeeds number deeds (party rest)) := by
  induction deeds generalizing crowd flow with
  | nil =>
      rw [Flow.path_nil] at path
      subst path
      have same : crowd.parties.set number (party rest) = crowd.parties := by
        obtain ⟨bound, here⟩ := List.getElem?_eq_some_iff.mp present
        rw [← here, List.set_getElem_self]
      rw [afterDeeds, same]
      simpa using reached
  | cons deed deeds ih =>
      cases flow with
      | done value => exact absurd path (Flow.path_done_cons _ _ _ _)
      | ask call next =>
          obtain ⟨reply, rfl, path⟩ := path
          have bound := (List.getElem?_eq_some_iff.mp present).1
          have stepped := reached.step _ _
            (.answer number _ _ _ present (steps call next reply) admitted.1)
          have walked := ih _ stepped (next reply) (List.getElem?_set_self bound) path
            (admitted.2.set_parties _ _ _ _)
          simpa [afterDeeds, List.set_set] using walked

theorem Reachable.holds (settings : Account.Settings) (session : Session) (problem : Problem)
    (canvas : Canvas) (id : Uuid) (asked : problem.question = session.question)
    (solved : problem.answer = .ok session.answer) :
    ∃ crowd, Reachable settings crowd ∧
      crowd.shelf.held (Cache.Key.captchaSession id) = some session.text := by
  have empty : Reachable settings ⟨⟨fun _ => none, []⟩, [], []⟩ :=
    .start _ ⟨rfl, rfl, fun _ => rfl, rfl⟩
  have came : Reachable settings
      ⟨⟨fun _ => none, []⟩, [.issuing (generate settings.captcha)], []⟩ := empty.step _ _ .issue
  have path : (generate settings.captcha).Path [.dated session.createdAt, .other, .named id,
      .stored (Cache.Key.captchaSession id) session.text]
        (.done (.ok ⟨id, canvas, session.question⟩)) := by
    refine ⟨session.createdAt, rfl, (problem, .ok canvas), rfl, id, rfl, ?_⟩
    simp only [solved, asked]
    exact ⟨.answered (.ok ()), rfl, (Flow.path_nil _ _).mpr rfl⟩
  have stored := came.walk settings .issuing Party.Answered.issuing 0 _ _ _ _ rfl path
    (by simp [AdmitsAll, Admits])
  exact ⟨_, stored, by simp [afterDeeds, Shelf.after, Shelf.put]⟩

theorem Reachable.opens (settings : Account.Settings) (required : settings.captchaRequired = true)
    (crowd : Crowd) (reached : Reachable settings crowd) (id : Uuid) (stored : String)
    (held : crowd.shelf.held (Cache.Key.captchaSession id) = some stored)
    (input : Account.Login) (captcha : Account.CaptchaAnswer)
    (answered : input.captcha = some captcha)
    (read : Uuid.ofText? (Text.trimmed captcha.session) = some id) (now : Instant)
    (right : verdict stored captcha.answer now = .ok ()) :
    ∃ next, Reachable settings next ∧ next.Reaches crowd.parties.length := by
  have entered := reached.step _ _ (.enter input)
  have path : (Account.login settings input).Path
      [.dated now, .took (Cache.Key.captchaSession id) (some stored)]
      (Account.checkCredentials settings input) := by
    rw [Account.login, Account.checkCaptcha, if_pos required, answered]
    refine ⟨now, rfl, ?_⟩
    simp only [verifyAt, read]
    refine ⟨.answered (.ok (some stored)), rfl, ?_⟩
    have judged : ((Flow.done (Outcome.ofExcept (verdict stored captcha.answer now))).andThen
        fun _ => Account.checkCredentials settings input).Path []
          (Account.checkCredentials settings input) := by
      rw [right]
      exact (Flow.path_nil _ _).mpr rfl
    exact judged
  have present : (crowd.parties ++ [.entering input (Account.login settings input)])[
      crowd.parties.length]? = some (.entering input (Account.login settings input)) := by simp
  have walked := entered.walk settings (.entering input) (Party.Answered.entering input) _ _ _ _ _
    present path ⟨trivial, held.symm, trivial⟩
  refine ⟨_, walked, input, Account.checkCredentials settings input, ?_, Or.inr rfl⟩
  simp [afterDeeds]

/-- When challenges are required, a login reaches the user store or the hasher only after taking a
session that was issued, that nobody else takes, and that its answer is right for: one login at most
for each challenge, and none after a wrong answer.  Whoever else presents the session is turned
away, and so is a login whose own call of the cache is late or fails. -/
theorem captcha_gate (settings : Account.Settings) (required : settings.captchaRequired = true)
    (crowd : Crowd) (reached : Reachable settings crowd) :
    (∀ number, crowd.Reaches number → ∃ captcha id now stored,
      crowd.Presents number captcha id ∧ crowd.Took number now id stored ∧
        verdict stored captcha.answer now = .ok () ∧
        (∃ issuer, crowd.Issued issuer id stored) ∧
        ∀ other found, (other, .took (Cache.Key.captchaSession id) (some found)) ∈ crowd.history →
          other = number) ∧
    (∀ one other captcha also id, crowd.Presents one captcha id → crowd.Presents other also id →
      crowd.Reaches one → crowd.Reaches other → one = other) ∧
    (∀ taker now id stored captcha failure, crowd.Took taker now id stored →
      crowd.Presents taker captcha id → verdict stored captcha.answer now = .error failure →
      ∀ number also, crowd.Presents number also id → ¬ crowd.Reaches number) ∧
    (∀ taker id stored, (taker, .took (Cache.Key.captchaSession id) (some stored)) ∈ crowd.history →
      ∀ other captcha, other ≠ taker → crowd.Presents other captcha id →
        ¬ crowd.Reaches other ∧ crowd.TurnedAway other id) ∧
    (∀ number input rest key, crowd.parties[number]? = some (.entering input rest) →
      (number, .missed key) ∈ crowd.history → ¬ crowd.Reaches number ∧
        ∃ failure, rest = .stop failure ∧ failure.kind = .unavailable) := by
  refine ⟨?_, ?_, ?_, ?_, ?_⟩
  · intro number reaches
    obtain ⟨captcha, id, now, stored, presents, took, right⟩ :=
      reached.took_of_reaches settings required crowd number reaches
    refine ⟨captcha, id, now, stored, presents, took, right, ?_, ?_⟩
    · exact reached.issued_of_took settings required crowd number id stored took.mem_history
    · intro other found taken
      exact (reached.taken_once settings required crowd id other number found stored taken
        took.mem_history).1
  · intro one other captcha also id presents alike reaches equally
    obtain ⟨now, stored, took, right⟩ :=
      reached.took_of_presents settings required crowd other also id alike equally
    exact (reached.reaches_of_took settings required crowd other now id stored took one captcha
      presents reaches).1
  · intro taker now id stored captcha failure took presents wrong number also alike reaches
    obtain ⟨rfl, right⟩ := reached.reaches_of_took settings required crowd taker now id stored took
      number also alike reaches
    obtain ⟨rfl, -⟩ := presents.unique crowd number captcha also id id alike
    rw [wrong] at right
    cases right
  · intro taker id stored taken other captcha differs presents
    refine ⟨?_, reached.turned_away settings required crowd taker other id stored taken differs
      captcha presents⟩
    intro reaches
    obtain ⟨now, found, took, right⟩ :=
      reached.took_of_presents settings required crowd other captcha id presents reaches
    exact differs (reached.taken_once settings required crowd id other taker found stored
      took.mem_history taken).1
  · intro number input rest key present missed
    have attempt := reached.attempt settings required crowd number input rest present
    obtain ⟨blind, failure, rfl, unavailable⟩ := attempt.of_missed settings input _ rest key
      ((crowd.mem_past_iff number _).mpr missed)
    refine ⟨?_, failure, rfl, unavailable⟩
    rintro ⟨same, left, there, looks⟩
    obtain ⟨rfl, rfl⟩ := Party.entering.inj (Option.some.inj (present.symm.trans there))
    rcases looks with looked | asks
    · exact blind looked
    · cases asks

/-- The gate lets somebody through: one and one was asked, and two answered. -/
theorem captcha_gate_two : ∃ (settings : Account.Settings) (crowd : Crowd) (number : Nat),
    settings.captchaRequired = true ∧ Reachable settings crowd ∧ crowd.Reaches number ∧
      ∃ captcha id now stored, crowd.Presents number captcha id ∧
        crowd.Took number now id stored ∧ ∃ issuer, crowd.Issued issuer id stored := by
  let settings : Account.Settings :=
    ⟨"Bearer ", ⟨"access", "refresh", 1, 2⟩, ⟨120, 40, 1000⟩, true, 1000⟩
  let session : Session := ⟨"1 + 1 = ?", 2, .epoch⟩
  let captcha : Account.CaptchaAnswer := ⟨" \x7b00000000-0000-0000-0000-00000000002A\x7d", "02 "⟩
  have fresh : ¬ Instant.epoch.since session.createdAt > (lifetime : Int) * 1000000000 := by decide
  have two : Decimal.int64? (Text.trim captcha.answer.toList) = some session.answer.toInt := by
    decide
  have right : verdict session.text captcha.answer .epoch = .ok () := by
    rw [verdict, session.ofStored_text (by decide)]
    simp only [bind, Except.bind, Session.check, if_neg fresh, if_pos two]
  obtain ⟨crowd, reached, held⟩ := Reachable.holds settings session ⟨1, 1, .add⟩ (.blank 120 40)
    ⟨42⟩ (by decide) rfl
  obtain ⟨next, arrived, reaches⟩ := reached.opens settings rfl crowd ⟨42⟩ session.text held
    ⟨"alice@example.com", "secret", some captcha⟩ captcha rfl (by decide) .epoch right
  obtain ⟨given, id, now, stored, presents, took, -, issued, -⟩ :=
    (captcha_gate settings rfl next arrived).1 _ reaches
  exact ⟨settings, next, _, rfl, arrived, reaches, given, id, now, stored, presents, took, issued⟩

end Crowd

end Gatehouse.Captcha

import Gatehouse.Account.Access
import Gatehouse.Proofs.Service.Paths

/-!
# Stages of issuing and of logging in

How far issuing a challenge and logging in can have come, by their deeds alone.
The two lists of stages, `Issuance` and `Attempt`, say everything that the flows
can do whatever the replies are; nothing later opens the flows again.
-/

set_option autoImplicit false

namespace Gatehouse

open Service

/-- The value went off to the key, whether or not it is there. -/
def Service.Deed.posts (key value : String) (deed : Deed) : Prop :=
  deed = .stored key value ∨ deed = .sent key value

def Service.Deed.postsTo (key : String) : Deed → Bool
  | .stored place _ | .sent place _ => place == key
  | _ => false

def Service.Deed.takesFrom (key : String) : Deed → Bool
  | .took place (some _) => place == key
  | _ => false

theorem Service.Deed.postsTo_iff (deed : Deed) (key : String) :
    deed.postsTo key = true ↔ ∃ value, deed.posts key value := by
  cases deed <;> simp [postsTo, posts]

theorem Service.Deed.posts_unique (deed : Deed) (key value other text : String)
    (posts : deed.posts key value) (also : deed.posts other text) :
    key = other ∧ value = text := by
  rcases posts with rfl | rfl <;> rcases also with also | also <;> cases also <;> exact ⟨rfl, rfl⟩

theorem Captcha.deed_set_posts (key value : String) (lifetime : Nat) (reply : Reply Unit) :
    ((CacheCall.set key value lifetime).deed reply).posts key value := by
  cases reply with
  | late => exact Or.inr rfl
  | answered result =>
      cases result with
      | error failure => exact Or.inr rfl
      | ok done => exact Or.inl rfl

/-! ## Issuing -/

/-- The deeds of issuing a challenge, stage by stage. -/
inductive Captcha.Issuance : List Deed → Prop
  | arrived : Issuance []
  | begun (now : Instant) : Issuance [.dated now]
  | drawn (now : Instant) : Issuance [.dated now, .other]
  | named (now : Instant) (id : Uuid) : Issuance [.dated now, .other, .named id]
  | posted (session : Session) (id : Uuid) (deed : Deed)
      (posts : deed.posts (Cache.Key.captchaSession id) session.text) :
      Issuance [.dated session.createdAt, .other, .named id, deed]

theorem Captcha.issuance_of_path (settings : Settings) (deeds : List Deed)
    (rest : Flow (Outcome Challenge)) (path : (generate settings).Path deeds rest) :
    Issuance deeds := by
  rw [generate] at path
  rcases deeds with _ | ⟨first, deeds⟩
  · exact .arrived
  obtain ⟨now, rfl, path⟩ := path
  simp only [generateAt] at path
  rcases deeds with _ | ⟨second, deeds⟩
  · exact .begun now
  obtain ⟨⟨problem, drawn⟩, rfl, path⟩ := path
  cases drawn with
  | error failure =>
      obtain ⟨rfl, -⟩ := (Flow.path_done_iff _ _ _).mp path
      exact .drawn now
  | ok canvas =>
      rcases deeds with _ | ⟨third, deeds⟩
      · exact .drawn now
      obtain ⟨id, rfl, path⟩ := path
      cases solved : problem.answer with
      | error crash =>
          simp only [solved] at path
          obtain ⟨rfl, -⟩ := (Flow.path_done_iff _ _ _).mp path
          exact .named now id
      | ok answer =>
          simp only [solved] at path
          rcases deeds with _ | ⟨fourth, deeds⟩
          · exact .named now id
          obtain ⟨reply, rfl, path⟩ := path
          have ended : deeds = [] := by
            rcases reply with ⟨_ | _⟩ | _ <;> exact ((Flow.path_done_iff _ _ _).mp path).1
          subst ended
          exact .posted ⟨problem.question, answer, now⟩ id _ (deed_set_posts _ _ _ reply)

/-! ## Logging in -/

def Captcha.verdict (stored answer : String) (now : Instant) : Except Failure Unit := do
  let session ← Cache.ofStored Session.read stored
  session.check answer now

namespace Account

/-- The deeds of a login that a challenge guards, and what is left of it, stage by stage. -/
inductive Attempt (settings : Settings) (input : Login) :
    List Deed → Flow (Outcome Admission) → Prop
  | unanswered (without : input.captcha = none) :
      Attempt settings input [] (.stop .captchaRequired)
  | arrived (captcha : CaptchaAnswer) (answered : input.captcha = some captcha)
      (next : Instant → Flow (Outcome Admission)) :
      Attempt settings input [] (.ask .now next)
  | unreadable (captcha : CaptchaAnswer) (answered : input.captcha = some captcha)
      (unread : Uuid.ofText? (Text.trimmed captcha.session) = none) (now : Instant) :
      Attempt settings input [.dated now] (.stop .captchaUnknown)
  | asking (captcha : CaptchaAnswer) (answered : input.captcha = some captcha) (id : Uuid)
      (read : Uuid.ofText? (Text.trimmed captcha.session) = some id) (now : Instant)
      (next : Reply (Option String) → Flow (Outcome Admission)) :
      Attempt settings input [.dated now]
        (.ask (.cache settings.captcha.limit (.take (Cache.Key.captchaSession id))) next)
  | missed (captcha : CaptchaAnswer) (answered : input.captcha = some captcha) (id : Uuid)
      (read : Uuid.ofText? (Text.trimmed captcha.session) = some id) (now : Instant)
      (failure : Failure) (unavailable : failure.kind = .unavailable) :
      Attempt settings input [.dated now, .missed (Cache.Key.captchaSession id)] (.stop failure)
  | absent (captcha : CaptchaAnswer) (answered : input.captcha = some captcha) (id : Uuid)
      (read : Uuid.ofText? (Text.trimmed captcha.session) = some id) (now : Instant) :
      Attempt settings input [.dated now, .took (Cache.Key.captchaSession id) none]
        (.stop .captchaUnknown)
  | refused (captcha : CaptchaAnswer) (answered : input.captcha = some captcha) (id : Uuid)
      (read : Uuid.ofText? (Text.trimmed captcha.session) = some id) (now : Instant)
      (stored : String) (failure : Failure)
      (wrong : Captcha.verdict stored captcha.answer now = .error failure) :
      Attempt settings input [.dated now, .took (Cache.Key.captchaSession id) (some stored)]
        (.stop failure)
  | admitted (captcha : CaptchaAnswer) (answered : input.captcha = some captcha) (id : Uuid)
      (read : Uuid.ofText? (Text.trimmed captcha.session) = some id) (now : Instant)
      (stored : String) (right : Captcha.verdict stored captcha.answer now = .ok ())
      (later : List Deed) (rest : Flow (Outcome Admission))
      (path : (checkCredentials settings input).Path later rest) :
      Attempt settings input
        (.dated now :: .took (Cache.Key.captchaSession id) (some stored) :: later) rest

theorem attempt_of_path (settings : Settings) (input : Login)
    (required : settings.captchaRequired = true) (deeds : List Deed)
    (rest : Flow (Outcome Admission)) (path : (login settings input).Path deeds rest) :
    Attempt settings input deeds rest := by
  rw [login, checkCaptcha, if_pos required] at path
  cases answered : input.captcha with
  | none =>
      simp only [answered] at path
      obtain ⟨rfl, rfl⟩ := (Flow.path_done_iff _ _ _).mp path
      exact .unanswered answered
  | some captcha =>
      simp only [answered, Captcha.verify] at path
      rcases deeds with _ | ⟨first, deeds⟩
      · rw [Flow.path_nil] at path
        subst path
        exact .arrived captcha answered _
      obtain ⟨now, rfl, path⟩ := path
      simp only [Captcha.verifyAt] at path
      cases read : Uuid.ofText? (Text.trimmed captcha.session) with
      | none =>
          simp only [read] at path
          obtain ⟨rfl, rfl⟩ := (Flow.path_done_iff _ _ _).mp path
          exact .unreadable captcha answered read now
      | some id =>
          simp only [read] at path
          rcases deeds with _ | ⟨second, deeds⟩
          · rw [Flow.path_nil] at path
            subst path
            exact .asking captcha answered id read now _
          obtain ⟨reply, rfl, path⟩ := path
          cases reply with
          | late =>
              obtain ⟨rfl, rfl⟩ := (Flow.path_done_iff _ _ _).mp path
              exact .missed captcha answered id read now _ rfl
          | answered result =>
              cases result with
              | error failure =>
                  obtain ⟨rfl, rfl⟩ := (Flow.path_done_iff _ _ _).mp path
                  exact .missed captcha answered id read now _ rfl
              | ok found =>
                  cases found with
                  | none =>
                      obtain ⟨rfl, rfl⟩ := (Flow.path_done_iff _ _ _).mp path
                      exact .absent captcha answered id read now
                  | some stored =>
                      have judged : ((Flow.done (Outcome.ofExcept
                          (Captcha.verdict stored captcha.answer now))).andThen
                            fun _ => checkCredentials settings input).Path deeds rest := path
                      cases found : Captcha.verdict stored captcha.answer now with
                      | error failure =>
                          rw [found] at judged
                          obtain ⟨rfl, rfl⟩ := (Flow.path_done_iff _ _ _).mp judged
                          exact .refused captcha answered id read now stored failure found
                      | ok done =>
                          rw [found] at judged
                          exact .admitted captcha answered id read now stored found deeds rest
                            judged

theorem checkCredentials_only (settings : Settings) (input : Login) :
    (checkCredentials settings input).Only fun deed =>
      deed = .credential ∨ ∃ now, deed = .dated now := by
  refine Flow.Only.andThen _ _ _ ⟨fun reply => Or.inl rfl, fun reply => ?_⟩ ?_
  · cases reply <;> exact trivial
  · intro found
    cases found with
    | none =>
        refine ⟨fun reply => Or.inl rfl, fun reply => ?_⟩
        cases reply with
        | error failure => exact trivial
        | ok hash => exact ⟨fun compared => Or.inl rfl, fun compared => trivial⟩
    | some user =>
        refine ⟨fun reply => Or.inl rfl, fun reply => ?_⟩
        rcases reply with failure | right | wrong
        · exact trivial
        · exact trivial
        · exact ⟨fun now => Or.inr ⟨now, rfl⟩, fun now => trivial⟩

theorem Attempt.not_posts (settings : Settings) (input : Login) (deeds : List Deed)
    (rest : Flow (Outcome Admission)) (attempt : Attempt settings input deeds rest)
    (deed : Deed) (done : deed ∈ deeds) (key value : String) : ¬ deed.posts key value := by
  rintro (rfl | rfl)
  all_goals
    cases attempt with
    | admitted captcha answered id read now stored right later rest path =>
        have quiet := Flow.Only.of_path _ _ (checkCredentials_only settings input) later _ path
        simp only [List.mem_cons, reduceCtorEq, false_or] at done
        have impossible := quiet _ done
        simp at impossible
    | _ => simp at done

theorem Attempt.of_credential (settings : Settings) (input : Login) (deeds : List Deed)
    (rest : Flow (Outcome Admission)) (attempt : Attempt settings input deeds rest)
    (looks : .credential ∈ deeds ∨ rest.asksCredential = true) :
    ∃ captcha id now stored later, input.captcha = some captcha ∧
      Uuid.ofText? (Text.trimmed captcha.session) = some id ∧
      deeds = .dated now :: .took (Cache.Key.captchaSession id) (some stored) :: later ∧
      Captcha.verdict stored captcha.answer now = .ok () := by
  cases attempt with
  | admitted captcha answered id read now stored right later rest path =>
      exact ⟨captcha, id, now, stored, later, answered, read, rfl, right⟩
  | _ => simp [Flow.stop, Flow.asksCredential, Call.credential] at looks

theorem Attempt.of_not_taken (settings : Settings) (input : Login) (deeds : List Deed)
    (rest : Flow (Outcome Admission)) (attempt : Attempt settings input deeds rest)
    (captcha : CaptchaAnswer) (answered : input.captcha = some captcha) (id : Uuid)
    (read : Uuid.ofText? (Text.trimmed captcha.session) = some id)
    (empty : ∀ stored, .took (Cache.Key.captchaSession id) (some stored) ∉ deeds) :
    deeds.length < 2 ∨ ∃ failure, rest = .stop failure ∧ (failure.kind = .expired ∨
      failure.kind = .unavailable ∧ .missed (Cache.Key.captchaSession id) ∈ deeds) := by
  cases attempt with
  | unanswered without => exact Or.inl (by simp)
  | arrived other also next => exact Or.inl (by simp)
  | unreadable other also unread now => exact Or.inl (by simp)
  | asking other also named also' now next => exact Or.inl (by simp)
  | missed other also named spelled now failure unavailable =>
      obtain rfl := Option.some.inj (answered.symm.trans also)
      obtain rfl := Option.some.inj (read.symm.trans spelled)
      exact Or.inr ⟨failure, rfl, Or.inr ⟨unavailable, by simp⟩⟩
  | absent other also named spelled now => exact Or.inr ⟨_, rfl, Or.inl rfl⟩
  | refused other also named spelled now stored failure wrong =>
      obtain rfl := Option.some.inj (answered.symm.trans also)
      obtain rfl := Option.some.inj (read.symm.trans spelled)
      exact absurd (by simp) (empty stored)
  | admitted other also named spelled now stored right later rest path =>
      obtain rfl := Option.some.inj (answered.symm.trans also)
      obtain rfl := Option.some.inj (read.symm.trans spelled)
      exact absurd (by simp) (empty stored)

theorem Attempt.of_missed (settings : Settings) (input : Login) (deeds : List Deed)
    (rest : Flow (Outcome Admission)) (attempt : Attempt settings input deeds rest) (key : String)
    (missed : .missed key ∈ deeds) :
    .credential ∉ deeds ∧ ∃ failure, rest = .stop failure ∧ failure.kind = .unavailable := by
  cases attempt with
  | missed captcha answered id read now failure unavailable =>
      exact ⟨by simp, failure, rfl, unavailable⟩
  | admitted captcha answered id read now stored right later rest path =>
      have quiet := Flow.Only.of_path _ _ (checkCredentials_only settings input) later _ path
      simp only [List.mem_cons, reduceCtorEq, false_or] at missed
      have impossible := quiet _ missed
      simp at impossible
  | _ => simp at missed

end Account

end Gatehouse

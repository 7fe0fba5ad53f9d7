import Gatehouse.Http.Body
import Gatehouse.Proofs.Outcome

/-!
# Which bodies are accepted

A body is accepted as a form if it is announced as JSON, fits, reads as the form
and breaks none of its rules (`Request.form_eq_ok_iff`).  What the rules for
signing up let through, the rules for logging in let through as well, whatever
address it is given as long as that is valid (`login_form_of_signup`).
-/

set_option autoImplicit false

namespace Gatehouse.Http

theorem checkRules_eq_ok_iff (rules : List Rule) :
    checkRules rules = .ok () ↔ ∀ rule ∈ rules, rule.holds = true := by
  rw [checkRules]
  cases broken : rules.filter fun rule => !rule.holds with
  | nil => simpa [List.filter_eq_nil_iff] using broken
  | cons rule rest =>
      have kept : rule ∈ rules.filter fun rule => !rule.holds := by
        rw [broken]
        exact List.mem_cons_self
      obtain ⟨inside, fails⟩ := List.mem_filter.mp kept
      refine iff_of_false (by rintro ⟨⟩) fun all => ?_
      rw [all rule inside] at fails
      cases fails

theorem Form.check_eq_ok_iff {φ : Type} [Form φ] (form checked : φ) :
    Form.check form = .ok checked ↔ checked = form ∧ ∀ rule ∈ Form.rules form, rule.holds = true := by
  rw [Form.check, bind_eq_ok_iff, ← checkRules_eq_ok_iff]
  constructor
  · rintro ⟨_, passed, same⟩
    exact ⟨(Except.ok.inj same).symm, passed⟩
  · rintro ⟨rfl, passed⟩
    exact ⟨(), passed, rfl⟩

/-- A request with a body that can be read: it is announced as JSON and fits, and reads as the form. -/
structure Request.Reads {φ : Type} [Form φ] (request : Request) (form : φ) : Prop where
  announced : request.announcesJson = true
  fits : request.body.length ≤ bodyLimit
  reads : (Json.readDocument Form.read request.body : Except Json.ReadError φ) = .ok form

theorem Request.form_eq_ok_iff {φ : Type} [Form φ] (request : Request) (form : φ) :
    request.form φ = .ok form ↔
      request.Reads form ∧ ∀ rule ∈ Form.rules form, rule.holds = true := by
  rw [Request.form]
  cases announced : request.announcesJson with
  | false =>
      refine iff_of_false (by rintro ⟨⟩) ?_
      rintro ⟨⟨announces, -, -⟩, -⟩
      cases announced.symm.trans announces
  | true =>
      rw [Bool.not_true, if_neg Bool.false_ne_true]
      by_cases long : bodyLimit < request.body.length
      · rw [if_pos long]
        refine iff_of_false (by rintro ⟨⟩) ?_
        rintro ⟨⟨-, fits, -⟩, -⟩
        omega
      · rw [if_neg long]
        cases read : (Json.readDocument Form.read request.body : Except Json.ReadError φ) with
        | error error =>
            refine iff_of_false (by rintro ⟨⟩) ?_
            rintro ⟨⟨-, -, reads⟩, -⟩
            cases read.symm.trans reads
        | ok found =>
            dsimp only
            rw [Form.check_eq_ok_iff]
            constructor
            · rintro ⟨rfl, keeps⟩
              exact ⟨⟨announced, Nat.not_lt.mp long, read⟩, keeps⟩
            · rintro ⟨⟨-, -, reads⟩, keeps⟩
              cases read.symm.trans reads
              exact ⟨rfl, keeps⟩

theorem SignupForm.keeps_iff (form : SignupForm) :
    (∀ rule ∈ Form.rules form, rule.holds = true) ↔ Email.valid form.email = true ∧
      (3 ≤ form.name.length ∧ form.name.length ≤ 100) ∧ 6 ≤ form.password.length := by
  simp [Form.rules, rules, emailRule]

theorem LoginForm.keeps_iff (form : LoginForm) :
    (∀ rule ∈ Form.rules form, rule.holds = true) ↔
      Email.valid form.email = true ∧ 1 ≤ form.password.length := by
  simp [Form.rules, rules, emailRule]

/-- The password of a form for signing up that was accepted may be used to log in, under any address
that is valid. -/
theorem login_form_of_signup (request login : Request) (form : SignupForm) (entry : LoginForm)
    (accepted : request.form SignupForm = .ok form) (reads : login.Reads entry)
    (password : entry.password = form.password) (valid : Email.valid entry.email = true) :
    login.form LoginForm = .ok entry := by
  obtain ⟨-, keeps⟩ := (request.form_eq_ok_iff form).mp accepted
  obtain ⟨-, -, long⟩ := form.keeps_iff.mp keeps
  refine (login.form_eq_ok_iff entry).mpr ⟨reads, entry.keeps_iff.mpr ⟨valid, ?_⟩⟩
  rw [password]
  omega

end Gatehouse.Http

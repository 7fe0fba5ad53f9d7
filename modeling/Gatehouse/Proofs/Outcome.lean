import Gatehouse.Failure

/-!
# Results in a row

A computation that goes on with the result of another succeeds, or fails, in
one of the ways that these lemmas spell out.
-/

set_option autoImplicit false

namespace Gatehouse

variable {ε α β : Type}

@[simp] theorem ok_bind (value : α) (next : α → Except ε β) :
    ((.ok value : Except ε α) >>= next) = next value := rfl

@[simp] theorem error_bind (error : ε) (next : α → Except ε β) :
    ((.error error : Except ε α) >>= next) = .error error := rfl

theorem bind_eq_ok_iff (first : Except ε α) (next : α → Except ε β) (result : β) :
    (first >>= next) = .ok result ↔ ∃ value, first = .ok value ∧ next value = .ok result := by
  cases first with
  | error error => simp
  | ok value => simp

theorem bind_eq_error_iff (first : Except ε α) (next : α → Except ε β) (error : ε) :
    (first >>= next) = .error error ↔
      first = .error error ∨ ∃ value, first = .ok value ∧ next value = .error error := by
  cases first with
  | error found => simp
  | ok value => simp

theorem toOption_eq_some_iff (result : Except ε α) (value : α) :
    result.toOption = some value ↔ result = .ok value := by
  cases result <;> simp [Except.toOption]

@[simp] theorem Outcome.ofExcept_ok (value : α) :
    Outcome.ofExcept (.ok value) = .ok value := rfl

theorem Outcome.ofExcept_eq_ok_iff (result : Except Failure α) (value : α) :
    Outcome.ofExcept result = .ok value ↔ result = .ok value := by
  cases result <;> simp [Outcome.ofExcept]

theorem Outcome.ofExcept_eq_failure_iff (result : Except Failure α) (failure : Failure) :
    Outcome.ofExcept result = .error (.failure failure) ↔ result = .error failure := by
  cases result <;> simp [Outcome.ofExcept]

end Gatehouse

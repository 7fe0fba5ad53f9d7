import Mathlib.Data.Int.Init
import Gatehouse.Instant

/-!
# Instants ahead

The instant a number of seconds ahead is the one that the clock shows then, and there is one as long
as the range of years has not ended.
-/

set_option autoImplicit false

namespace Gatehouse.Instant

/-- The nanoseconds that the clock shows some seconds after an instant.  Any wait leaves a leap
second behind. -/
def nanosAhead (now : Instant) (seconds : Nat) : Nat :=
  if seconds = 0 then now.nanos else now.nanos % 1000000000

theorem later?_eq_some_iff (now ahead : Instant) (seconds : Nat) :
    now.later? seconds = some ahead ↔
      ahead.seconds = now.seconds + seconds ∧ ahead.nanos = now.nanosAhead seconds := by
  unfold later? nanosAhead
  by_cases none : seconds = 0
  · obtain ⟨second, nanos, _, _, _⟩ := now
    obtain ⟨aheadSecond, aheadNanos, _, _, _⟩ := ahead
    simp only [none, if_true, Option.some.injEq, mk.injEq]
    omega
  · rw [if_neg none, if_neg none, of?_eq_some_iff]

theorem isSome_later?_iff (now : Instant) (seconds : Nat) :
    (now.later? seconds).isSome ↔ now.seconds + seconds ≤ lastSecond := by
  have least := now.first_le
  have most := now.le_last
  have nanos := now.nanos_lt
  constructor
  · intro found
    obtain ⟨ahead, is⟩ := Option.isSome_iff_exists.mp found
    rw [← ((later?_eq_some_iff now ahead seconds).mp is).1]
    exact ahead.le_last
  · intro within
    have short : now.nanosAhead seconds < 2000000000 := by
      unfold nanosAhead
      split <;> omega
    rw [Option.isSome_iff_exists]
    exact ⟨⟨now.seconds + seconds, now.nanosAhead seconds, by omega, within, short⟩,
      (later?_eq_some_iff now _ seconds).mpr ⟨rfl, rfl⟩⟩

/-- Outside a leap second the wait is as long as it was meant to be, to the nanosecond. -/
theorem since_of_later? (now ahead : Instant) (seconds : Nat)
    (found : now.later? seconds = some ahead) (ordinary : now.nanos < 1000000000) :
    ahead.since now = seconds * 1000000000 := by
  obtain ⟨second, nanos⟩ := (later?_eq_some_iff now ahead seconds).mp found
  have same : ahead.nanos = now.nanos := by
    rw [nanos, nanosAhead]
    split <;> omega
  unfold since
  rw [if_neg (by omega : ¬ now.nanos ≥ 1000000000), if_neg (by omega : ¬ ahead.nanos ≥ 1000000000)]
  simp only [ite_self, same, second]
  omega

end Gatehouse.Instant

/-!
# Instants

A point of civil time in UTC, to the nanosecond, inside a fixed range of years.
The nanoseconds run up to two seconds: a value of a whole second or more means
that the instant lies within the leap second after `seconds`.
-/

set_option autoImplicit false

namespace Gatehouse

/-- First second of the first representable year. -/
def firstSecond : Int := -8334601228800

/-- Last second of the last representable year. -/
def lastSecond : Int := 8210266876799

structure Instant where
  /-- Whole seconds since the start of 1970. -/
  seconds : Int
  nanos : Nat
  first_le : firstSecond ≤ seconds
  le_last : seconds ≤ lastSecond
  nanos_lt : nanos < 2000000000
  deriving DecidableEq, Repr

namespace Instant

/-- The instant at `seconds` and `nanos`, where the range holds it. -/
def of? (seconds : Int) (nanos : Nat) : Option Instant :=
  if h : firstSecond ≤ seconds ∧ seconds ≤ lastSecond ∧ nanos < 2000000000 then
    some ⟨seconds, nanos, h.1, h.2.1, h.2.2⟩
  else none

def epoch : Instant :=
  ⟨0, 0, by decide, by decide, by decide⟩

def ofDay (instant : Instant) : Int :=
  instant.seconds % 86400

/-- Nanoseconds from `earlier` to `later`.  A leap second between the two counts once the clock
time has passed it. -/
def since (later earlier : Instant) : Int :=
  let leap : Int :=
    if earlier.ofDay < later.ofDay then
      if earlier.nanos ≥ 1000000000 then 1 else 0
    else if later.ofDay < earlier.ofDay then
      if later.nanos ≥ 1000000000 then -1 else 0
    else 0
  (later.seconds - earlier.seconds + leap) * 1000000000 + later.nanos - earlier.nanos

/-- The instant a positive number of seconds later; it lies within no leap second. -/
def later? (instant : Instant) (seconds : Nat) : Option Instant :=
  if seconds = 0 then some instant
  else of? (instant.seconds + seconds) (instant.nanos % 1000000000)

theorem of?_eq_some_iff {seconds : Int} {nanos : Nat} {instant : Instant} :
    of? seconds nanos = some instant ↔ instant.seconds = seconds ∧ instant.nanos = nanos := by
  constructor
  · intro found
    simp only [of?] at found
    split at found
    · cases Option.some.inj found
      exact ⟨rfl, rfl⟩
    · cases found
  · rintro ⟨rfl, rfl⟩
    simp [of?, instant.first_le, instant.le_last, instant.nanos_lt]

end Instant

end Gatehouse

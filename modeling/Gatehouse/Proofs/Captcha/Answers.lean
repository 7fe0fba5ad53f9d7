import Gatehouse.Proofs.Captcha.Lifecycle
import Gatehouse.Proofs.Text.Trimming

/-!
# Which answers are accepted

An answer is accepted exactly if it is a numeral between blanks that spells the
expected number (`accepted_answers`).  Whether there is time left is decided by
the span between two instants, and no two instants are too far apart for one.
-/

set_option autoImplicit false

namespace Gatehouse

namespace Decimal

theorem Numeral.ne_nil {chars : List Char} {value : Int} (numeral : Numeral chars value) :
    chars ≠ [] := by
  cases numeral with
  | plain only => exact only.1
  | plus only => exact List.cons_ne_nil _ _
  | minus only => exact List.cons_ne_nil _ _

theorem Numeral.solid {chars : List Char} {value : Int} (numeral : Numeral chars value) :
    ∀ char ∈ chars, Text.isBlank char = false := by
  have digits : ∀ {digits : List Char}, Digits digits →
      ∀ char ∈ digits, Text.isBlank char = false :=
    fun only char inside => Timestamp.isBlank_of_isDigit char (only.2 char inside)
  cases numeral with
  | plain only => exact digits only
  | plus only => exact List.forall_mem_cons.mpr ⟨rfl, digits only⟩
  | minus only => exact List.forall_mem_cons.mpr ⟨rfl, digits only⟩

theorem int64?_trim_eq_some_iff (chars : List Char) (value : Int) :
    int64? (Text.trim chars) = some value ↔
      (∃ before numeral after, chars = before ++ numeral ++ after ∧
        (∀ char ∈ before ++ after, Text.isBlank char = true) ∧ Numeral numeral value) ∧
      minInt64 ≤ value ∧ value ≤ maxInt64 := by
  rw [int64?_eq_some_iff]
  refine and_congr_left fun _ => ⟨fun numeral => ?_, ?_⟩
  · obtain ⟨before, after, splits, blank⟩ := Text.exists_trim chars
    exact ⟨before, Text.trim chars, after, splits, blank, numeral⟩
  · rintro ⟨before, core, after, rfl, blank, numeral⟩
    rw [Text.trim_between before core after numeral.ne_nil
      (fun char inside => blank char (List.mem_append_left _ inside))
      (fun char inside => blank char (List.mem_append_right _ inside)) numeral.solid]
    exact numeral

end Decimal

/-! ## Spans between instants -/

namespace Instant

/-- The longest span of time in nanoseconds: the milliseconds of a signed 64-bit number. -/
def longestSpan : Int := 9223372036854775807 * 1000000

/-- Nanoseconds between the starts of the days of two instants. -/
def daysSince (later earlier : Instant) : Int :=
  (later.seconds / 86400 - earlier.seconds / 86400) * 86400 * 1000000000

/-- The leap second that lies between the times of day of two instants. -/
def leapSince (later earlier : Instant) : Int :=
  if earlier.ofDay < later.ofDay then
    if earlier.nanos ≥ 1000000000 then 1 else 0
  else if later.ofDay < earlier.ofDay then
    if later.nanos ≥ 1000000000 then -1 else 0
  else 0

/-- Nanoseconds between the times of day of two instants. -/
def clockSince (later earlier : Instant) : Int :=
  (later.ofDay - earlier.ofDay + later.leapSince earlier) * 1000000000 + later.nanos -
    earlier.nanos

theorem since_eq (later earlier : Instant) :
    later.since earlier = later.daysSince earlier + later.clockSince earlier := by
  have same : later.since earlier =
      (later.seconds - earlier.seconds + later.leapSince earlier) * 1000000000 + later.nanos -
        earlier.nanos := rfl
  rw [same, daysSince, clockSince, ofDay, ofDay]
  omega

theorem leapSince_bounds (later earlier : Instant) : (later.leapSince earlier).natAbs ≤ 1 := by
  unfold leapSince
  split
  · split <;> decide
  · split
    · split <;> decide
    · decide

theorem clockSince_bounds (later earlier : Instant) :
    (later.clockSince earlier).natAbs ≤ 86402 * 1000000000 := by
  have one := later.nanos_lt
  have other := earlier.nanos_lt
  have leap := later.leapSince_bounds earlier
  unfold clockSince ofDay
  omega

theorem daysSince_bounds (later earlier : Instant) :
    (later.daysSince earlier).natAbs ≤ 16544868192000 * 1000000000 := by
  have one := later.first_le
  have other := earlier.first_le
  have last := later.le_last
  have also := earlier.le_last
  unfold firstSecond at one other
  unfold lastSecond at last also
  unfold daysSince
  omega

/-- Neither the span between two instants nor the two that it is the sum of is longer than a span
can be. -/
theorem since_bounds (later earlier : Instant) :
    ((later.daysSince earlier).natAbs ≤ longestSpan ∧
      (later.clockSince earlier).natAbs ≤ longestSpan) ∧
    (later.since earlier).natAbs ≤ longestSpan := by
  have days := later.daysSince_bounds earlier
  have clocks := later.clockSince_bounds earlier
  rw [since_eq]
  unfold longestSpan
  omega

end Instant

namespace Captcha.Session

/-- The expected number is one of 64 bits, whatever the numeral's length is. -/
theorem answer_bounds (session : Session) :
    Decimal.minInt64 ≤ session.answer.toInt ∧ session.answer.toInt ≤ Decimal.maxInt64 :=
  ⟨session.answer.le_toInt, Int.lt_add_one_iff.mp session.answer.toInt_lt⟩

/-- Up to 300 seconds after the question, an answer is accepted exactly if it is a numeral of the
expected number, of any length, with nothing but blanks around it; anything else is an incorrect
answer.  The span that is compared can be computed for every two instants. -/
theorem accepted_answers (session : Session) (submitted : String) (now : Instant) :
    (((now.daysSince session.createdAt).natAbs ≤ Instant.longestSpan ∧
        (now.clockSince session.createdAt).natAbs ≤ Instant.longestSpan) ∧
      (now.since session.createdAt).natAbs ≤ Instant.longestSpan) ∧
    (now.since session.createdAt ≤ 300 * 1000000000 →
      let Spelled := ∃ before numeral after, submitted.toList = before ++ numeral ++ after ∧
        (∀ char ∈ before ++ after, Text.isBlank char = true) ∧
        Decimal.Numeral numeral session.answer.toInt
      (session.check submitted now = .ok () ↔ Spelled) ∧
      (¬Spelled → session.check submitted now = .error .captchaWrong ∧
        Failure.captchaWrong.kind = .incorrectAnswer)) := by
  refine ⟨now.since_bounds session.createdAt, fun inTime => ?_⟩
  intro Spelled
  have reads : Decimal.int64? (Text.trim submitted.toList) = some session.answer.toInt ↔ Spelled :=
    (Decimal.int64?_trim_eq_some_iff _ _).trans (and_iff_left session.answer_bounds)
  refine ⟨?_, fun wrong => ⟨?_, rfl⟩⟩
  · rw [check_eq_ok_iff, and_iff_right inTime, reads]
  · rw [check_in_time session submitted now inTime, if_neg (reads.not.mpr wrong)]

/-- The least number of 64 bits is accepted in the last nanosecond, with zeros in front and blanks
of other scripts around it; the number with the same bits and no sign is too large. -/
theorem accepted_answers_least_number :
    let session : Session := ⟨"0 - 9223372036854775808 = ?", Int64.minValue, .epoch⟩
    let now : Instant := ⟨300, 0, by decide, by decide, by decide⟩
    now.since session.createdAt ≤ 300 * 1000000000 ∧
      session.check "\u3000-0009223372036854775808\u00a0" now = .ok () ∧
      session.check "9223372036854775808" now = .error .captchaWrong := by
  intro session now
  have inTime : now.since session.createdAt ≤ 300 * 1000000000 := by decide
  have accepts := fun submitted => (accepted_answers session submitted now).2 inTime
  have digits : Decimal.Digits "0009223372036854775808".toList := by
    have all : "0009223372036854775808".toList.all Decimal.isDigit = true := by decide
    exact ⟨by decide, List.all_eq_true.mp all⟩
  have numeral : Decimal.Numeral "-0009223372036854775808".toList session.answer.toInt :=
    Decimal.Numeral.minus digits
  have blank : ['\u3000', '\u00a0'].all Text.isBlank = true := by decide
  refine ⟨inTime, (accepts _).1.mpr ⟨['\u3000'], _, ['\u00a0'], rfl, List.all_eq_true.mp blank,
    numeral⟩, ((accepts _).2 fun spelled => ?_).1⟩
  have reads := (Decimal.int64?_trim_eq_some_iff _ _).mpr ⟨spelled, session.answer_bounds⟩
  exact absurd reads (by decide)

end Captcha.Session

end Gatehouse

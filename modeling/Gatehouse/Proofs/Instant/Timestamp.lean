import Gatehouse.Instant.Timestamp
import Gatehouse.Proofs.Instant.Calendar
import Gatehouse.Proofs.Text.Decimals

/-!
# Written instants are read back

The text of an instant names a date and a time of day, and these name the instant
again.  Each reader takes off the characters that its part was written with, up to
the mark that follows.
-/

set_option autoImplicit false

namespace Gatehouse.Timestamp

open Gatehouse.Text (trimStart isBlank)
open Gatehouse.Decimal (isDigit padded)

/-! ## Digits -/

/-- No digit comes first. -/
def Stops (chars : List Char) : Prop :=
  ∀ char, chars.head? = some char → isDigit char = false

theorem stops_cons (char : Char) (rest : List Char) (other : isDigit char = false) :
    Stops (char :: rest) := by
  intro first is
  cases is
  exact other

theorem takeWhile_stops (rest : List Char) (stops : Stops rest) :
    rest.takeWhile isDigit = [] := by
  cases rest with
  | nil => rfl
  | cons char rest => simp [stops char rfl]

/-- A run of digits is taken whole, if nothing but digits would go beyond the limit. -/
theorem takeWhile_run (most : Nat) (run rest : List Char)
    (digits : ∀ char ∈ run, isDigit char = true) (bound : run.length ≤ most)
    (ends : run.length = most ∨ Stops rest) :
    ((run ++ rest).take most).takeWhile isDigit = run := by
  rw [List.take_append, List.take_of_length_le bound, List.takeWhile_append_of_pos digits]
  have nothing : (rest.take (most - run.length)).takeWhile isDigit = [] := by
    rcases ends with full | stops
    · rw [full, Nat.sub_self]
      rfl
    · apply takeWhile_stops
      generalize most - run.length = room
      intro char first
      cases room with
      | zero => cases first
      | succ room => cases rest <;> exact stops char first
  rw [nothing, List.append_nil]

theorem digits_run (most : Nat) (run rest : List Char) (value : Nat)
    (all : ∀ char ∈ run, isDigit char = true) (reads : Decimal.natural? run = some value)
    (bound : run.length ≤ most) (ends : run.length = most ∨ Stops rest) :
    digits most (run ++ rest) = some (value, rest) := by
  have taken := takeWhile_run most run rest all bound ends
  have reading : digits most (run ++ rest) =
      (Decimal.natural? (((run ++ rest).take most).takeWhile isDigit)).map fun value =>
        (value, (run ++ rest).drop (((run ++ rest).take most).takeWhile isDigit).length) := rfl
  rw [reading, taken, reads, List.drop_left]
  rfl

theorem isBlank_of_isDigit (char : Char) (digit : isDigit char = true) : isBlank char = false := by
  unfold isDigit Decimal.digit? at digit
  split at digit
  · rename_i bounds
    have least : 48 ≤ char.toNat := bounds.1
    have most : char.toNat ≤ 57 := bounds.2
    simp only [isBlank, Bool.or_eq_false_iff, Bool.and_eq_false_iff, decide_eq_false_iff_not,
      beq_eq_false_iff_ne]
    omega
  · cases digit

theorem exists_padded_cons (width value : Nat) :
    ∃ char rest, (padded width value).toList = char :: rest ∧ isDigit char = true := by
  cases shape : (padded width value).toList with
  | nil =>
      have reads := Decimal.natural?_padded width value
      rw [shape] at reads
      cases reads
  | cons char rest =>
      refine ⟨char, rest, rfl, Decimal.isDigit_of_mem_padded width value char ?_⟩
      rw [shape]
      exact List.mem_cons_self

theorem trimStart_padded (width value : Nat) (rest : List Char) :
    trimStart ((padded width value).toList ++ rest) = (padded width value).toList ++ rest := by
  obtain ⟨char, others, shape, digit⟩ := exists_padded_cons width value
  rw [shape]
  exact Text.trimStart_of_head (isBlank_of_isDigit char digit)

/-! ## The parts of a timestamp -/

theorem field_padded (low high value : Nat) (rest : List Char) (least : low ≤ value)
    (most : value ≤ high) (fits : value < 100) :
    field low high ((padded 2 value).toList ++ rest) = some (value, rest) := by
  have width := Decimal.length_padded 2 value (by decide) fits
  have read := digits_run 2 _ rest value (Decimal.isDigit_of_mem_padded 2 value)
    (Decimal.natural?_padded 2 value) width.le (Or.inl width)
  unfold field
  rw [trimStart_padded, read]
  simp [least, most]

theorem separator_mark (mark : Char) (solid : isBlank mark = false) (rest : List Char) :
    separator mark (mark :: rest) = some ((), rest) := by
  unfold separator
  rw [Text.trimStart_of_head solid]
  simp

theorem year_text (value : Int) (rest : List Char) :
    year ((yearText value).toList ++ '-' :: rest) = some (value, '-' :: rest) := by
  have stops := stops_cons '-' rest (by decide)
  have reads := fun number : Nat => digits_run
    ((padded 4 number).toList ++ '-' :: rest).length _ ('-' :: rest) number
    (Decimal.isDigit_of_mem_padded 4 number) (Decimal.natural?_padded 4 number) (by simp)
    (Or.inr stops)
  unfold yearText
  split
  · rename_i plain
    obtain ⟨char, others, shape, digit⟩ := exists_padded_cons 4 value.toNat
    have width := Decimal.length_padded 4 value.toNat (by decide) (by omega)
    have read := digits_run 4 _ ('-' :: rest) value.toNat
      (Decimal.isDigit_of_mem_padded 4 value.toNat) (Decimal.natural?_padded 4 value.toNat)
      width.le (Or.inl width)
    unfold year
    rw [trimStart_padded]
    split
    · rename_i minus
      rw [shape] at minus
      cases minus
      cases digit
    · rename_i plus
      rw [shape] at plus
      cases plus
      cases digit
    · rw [read]
      simp
      omega
  · split
    · have shape : ("+" ++ padded 4 value.toNat).toList ++ '-' :: rest =
          '+' :: ((padded 4 value.toNat).toList ++ '-' :: rest) := by
        rw [String.toList_append]
        rfl
      unfold year
      rw [shape, Text.trimStart_of_head (by decide)]
      simp only [reads]
      simp
      omega
    · have shape : ("-" ++ padded 4 (-value).toNat).toList ++ '-' :: rest =
          '-' :: ((padded 4 (-value).toNat).toList ++ '-' :: rest) := by
        rw [String.toList_append]
        rfl
      unfold year
      rw [shape, Text.trimStart_of_head (by decide)]
      simp only [reads]
      simp
      omega

theorem fraction_point (chars : List Char) :
    fraction ('.' :: chars) =
      (let run := (chars.take 9).takeWhile isDigit
      (Decimal.natural? run).bind fun value =>
        some (value * Nat.pow 10 (9 - run.length), (chars.drop run.length).dropWhile isDigit)) :=
  rfl

theorem fraction_padded (width value : Nat) (positive : 0 < width) (short : width ≤ 9)
    (fits : value < 10 ^ width) (rest : List Char) :
    fraction ('.' :: ((padded width value).toList ++ 'Z' :: rest)) =
      some (value * 10 ^ (9 - width), 'Z' :: rest) := by
  have length := Decimal.length_padded width value positive fits
  have taken := takeWhile_run 9 _ ('Z' :: rest) (Decimal.isDigit_of_mem_padded width value)
    (length.trans_le short) (Or.inr (stops_cons 'Z' rest (by decide)))
  have left : ((padded width value).toList ++ 'Z' :: rest).drop width = 'Z' :: rest :=
    List.drop_left' length
  have stop : isDigit 'Z' = false := by decide
  rw [fraction_point, taken]
  simp only [Decimal.natural?_padded, length, left, Option.bind_some]
  rw [List.dropWhile_cons_of_neg (by simp [stop])]
  rfl

theorem fraction_text (nanos : Nat) (bound : nanos < 1000000000) (rest : List Char) :
    fraction ((fractionText nanos).toList ++ 'Z' :: rest) = some (nanos, 'Z' :: rest) := by
  have pointed : ∀ text : String,
      ("." ++ text).toList ++ 'Z' :: rest = '.' :: (text.toList ++ 'Z' :: rest) := by
    intro text
    rw [String.toList_append]
    rfl
  unfold fractionText
  split
  · rename_i none
    rw [none]
    rfl
  · split
    · rw [pointed, fraction_padded 3 _ (by decide) (by decide) (by omega)]
      simp
      omega
    · split
      · rw [pointed, fraction_padded 6 _ (by decide) (by decide) (by omega)]
        simp
        omega
      · rw [pointed, fraction_padded 9 _ (by decide) (by decide) bound]
        simp

/-! ## Whole timestamps -/

/-- The characters of a date and a time of day in UTC. -/
def written (date : Calendar.Date) (hour minute second nanos : Nat) : List Char :=
  (yearText date.year).toList ++ '-' :: ((padded 2 date.month).toList ++ '-' ::
    ((padded 2 date.day).toList ++ 'T' :: ((padded 2 hour).toList ++ ':' ::
      ((padded 2 minute).toList ++ ':' :: ((padded 2 second).toList ++
        ((fractionText nanos).toList ++ ['Z']))))))

theorem bind_read {α β : Type} (reader : Option (α × List Char)) (value : α) (rest : List Char)
    (read : reader = some (value, rest)) (next : α × List Char → Option β) :
    (reader >>= next) = next (value, rest) := by
  rw [read]
  rfl

theorem ofChars?_written (date : Calendar.Date) (hour minute second nanos : Nat)
    (valid : date.valid = true) (hours : hour < 24) (minutes : minute < 60) (seconds : second ≤ 60)
    (fits : nanos < 1000000000) :
    ofChars? (written date hour minute second nanos) =
      (let told := if second = 60 then (59, nanos + 1000000000) else (second, nanos)
      (Instant.of? (date.toDays * 86400 + (hour * 3600 + minute * 60 + told.1 : Nat)) told.2).bind
        fun clock => Instant.of? clock.seconds told.2) := by
  have ranges := valid
  simp only [Calendar.Date.valid, Bool.and_eq_true, decide_eq_true_eq] at ranges
  obtain ⟨⟨⟨firstMonth, lastMonth⟩, firstDay⟩, lastDay⟩ := ranges
  have days := Calendar.monthDays_le date.year date.month
  have ends : offset (trimStart ['Z']) = some (0, []) := rfl
  have divides : ∀ rest : List Char, divider ('T' :: rest) = some ((), rest) := fun _ => rfl
  have dash := separator_mark '-' (by decide)
  have colon := separator_mark ':' (by decide)
  have month := fun rest => field_padded 1 12 date.month rest firstMonth lastMonth (by omega)
  have day := fun rest => field_padded 1 31 date.day rest firstDay (by omega) (by omega)
  have hour' := fun rest => field_padded 0 23 hour rest (by omega) (by omega) (by omega)
  have minute' := fun rest => field_padded 0 59 minute rest (by omega) (by omega) (by omega)
  have second' := fun rest => field_padded 0 60 second rest (by omega) seconds (by omega)
  unfold ofChars? written
  -- each reader takes its part off the front and hands on what is left
  refine (bind_read _ _ _ (year_text _ _) _).trans ?_
  refine (bind_read _ _ _ (dash _) _).trans ?_
  refine (bind_read _ _ _ (month _) _).trans ?_
  refine (bind_read _ _ _ (dash _) _).trans ?_
  refine (bind_read _ _ _ (day _) _).trans ?_
  refine (bind_read _ _ _ (divides _) _).trans ?_
  refine (bind_read _ _ _ (hour' _) _).trans ?_
  refine (bind_read _ _ _ (colon _) _).trans ?_
  refine (bind_read _ _ _ (minute' _) _).trans ?_
  refine (bind_read _ _ _ (colon _) _).trans ?_
  refine (bind_read _ _ _ (second' _) _).trans ?_
  refine (bind_read _ _ _ (fraction_text nanos fits _) _).trans ?_
  refine (bind_read _ _ _ ends _).trans ?_
  refine (if_pos ⟨rfl, valid, by decide⟩).trans ?_
  generalize (if second = 60 then (59, nanos + 1000000000) else (second, nanos)) = told
  obtain ⟨second, nanos⟩ := told
  have unshifted : ∀ clock : Instant, clock.seconds - (0 : Int) = clock.seconds := fun clock =>
    Int.sub_zero clock.seconds
  simp only [unshifted]
  rfl

end Gatehouse.Timestamp

namespace Gatehouse

open Timestamp

/-- The instant can be represented by a date and a time of day: a leap second comes after the last
second of a minute, where the seconds of the day read 60, and nowhere else. -/
def Instant.Representable (instant : Instant) : Prop :=
  instant.nanos < 1000000000 ∨ instant.seconds % 60 = 59

namespace Timestamp

theorem toList_text (instant : Instant) :
    (text instant).toList =
      let ofDay := (instant.seconds % 86400).toNat
      written (Calendar.Date.ofDays (instant.seconds / 86400)) (ofDay / 3600) (ofDay / 60 % 60)
        (ofDay % 60 + instant.nanos / 1000000000) (instant.nanos % 1000000000) := by
  have marks : "-".toList = ['-'] ∧ "T".toList = ['T'] ∧ ":".toList = [':'] ∧ "Z".toList = ['Z'] :=
    ⟨rfl, rfl, rfl, rfl⟩
  unfold text written
  rw [Int.fdiv_eq_ediv_of_nonneg _ (by decide), Int.fmod_eq_emod_of_nonneg _ (by decide)]
  simp only [String.toList_append, marks, List.append_assoc, List.cons_append, List.nil_append]

theorem of?_again_iff (seconds : Int) (nanos : Nat) (instant : Instant) :
    ((Instant.of? seconds nanos).bind fun clock => Instant.of? clock.seconds nanos) =
        some instant ↔ instant.seconds = seconds ∧ instant.nanos = nanos := by
  rw [Option.bind_eq_some_iff]
  constructor
  · rintro ⟨clock, first, again⟩
    obtain ⟨same, -⟩ := Instant.of?_eq_some_iff.mp first
    obtain ⟨also, fraction⟩ := Instant.of?_eq_some_iff.mp again
    exact ⟨also.trans same, fraction⟩
  · rintro ⟨rfl, rfl⟩
    have found : Instant.of? instant.seconds instant.nanos = some instant :=
      Instant.of?_eq_some_iff.mpr ⟨rfl, rfl⟩
    exact ⟨instant, found, found⟩

/-- The text of an instant is read back as the instant, exactly if the instant is representable. -/
theorem ofText?_text_iff (instant : Instant) :
    ofText? (text instant) = some instant ↔ instant.Representable := by
  obtain ⟨ofDay, isOfDay⟩ : ∃ ofDay : Nat, instant.seconds % 86400 = ofDay :=
    ⟨(instant.seconds % 86400).toNat, by omega⟩
  have nanos := instant.nanos_lt
  have short : ofDay < 86400 := by omega
  have minute : instant.seconds % 60 = ((ofDay % 60 : Nat) : Int) := by omega
  unfold ofText? Instant.Representable
  rw [toList_text, minute]
  simp only [isOfDay, Int.toNat_natCast]
  rw [ofChars?_written _ _ _ _ _ (Calendar.valid_ofDays _) (by omega) (by omega) (by omega)
    (by omega), Calendar.toDays_ofDays]
  -- a leap second is told as the sixtieth of its minute
  by_cases leap : ofDay % 60 + instant.nanos / 1000000000 = 60
  · rw [if_pos leap, of?_again_iff]
    dsimp only
    omega
  · rw [if_neg leap, of?_again_iff]
    dsimp only
    omega

end Timestamp

end Gatehouse

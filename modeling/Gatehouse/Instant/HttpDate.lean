import Gatehouse.Instant.Calendar
import Gatehouse.Text.Decimal

/-!
# Dates in headers

A second of civil time in the fixed-length form that HTTP prescribes, in UTC.
-/

set_option autoImplicit false

namespace Gatehouse.HttpDate

/-- The short name of a day of the week, by the days since the start of 1970, a Thursday. -/
def weekday (days : Int) : String :=
  match (days + 4) % 7 with
  | 0 => "Sun"
  | 1 => "Mon"
  | 2 => "Tue"
  | 3 => "Wed"
  | 4 => "Thu"
  | 5 => "Fri"
  | _ => "Sat"

def monthName : Nat → String
  | 1 => "Jan"
  | 2 => "Feb"
  | 3 => "Mar"
  | 4 => "Apr"
  | 5 => "May"
  | 6 => "Jun"
  | 7 => "Jul"
  | 8 => "Aug"
  | 9 => "Sep"
  | 10 => "Oct"
  | 11 => "Nov"
  | _ => "Dec"

/-- The text of a second, counted from the start of 1970. -/
def text (seconds : Int) : String :=
  let days := Int.fdiv seconds 86400
  let ofDay := (Int.fmod seconds 86400).toNat
  let date := Calendar.Date.ofDays days
  weekday days ++ ", " ++ Decimal.padded 2 date.day ++ " " ++ monthName date.month ++ " " ++
    toString date.year ++ " " ++ Decimal.padded 2 (ofDay / 3600) ++ ":" ++
    Decimal.padded 2 (ofDay / 60 % 60) ++ ":" ++ Decimal.padded 2 (ofDay % 60) ++ " GMT"

end Gatehouse.HttpDate

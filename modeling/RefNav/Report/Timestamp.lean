import RefNav.Text.Digit

/-! # Times of answers

A time is written as date and time of day in coordinated universal time.
-/

namespace RefNav.Timestamp

open RefNav.Text

/-- Days from the first of March of the year zero to the first of January 1970. -/
def epochDays : Int := 719468

/-- Days in the four hundred years after which the calendar repeats. -/
def cycleDays : Int := 146097

/-- Year, month and day of a number of days since the first of January 1970.  Years
are counted from March, so that the leap day is the last of its year. -/
def civil (days : Int) : Int × Int × Int :=
  let shifted := days + epochDays
  let cycle := Int.fdiv shifted cycleDays
  let dayOfCycle := Int.fmod shifted cycleDays
  let yearOfCycle :=
    (dayOfCycle - dayOfCycle / 1460 + dayOfCycle / 36524 - dayOfCycle / 146096) / 365
  let dayOfYear := dayOfCycle - (365 * yearOfCycle + yearOfCycle / 4 - yearOfCycle / 100)
  let marchMonth := (5 * dayOfYear + 2) / 153
  let day := dayOfYear - (153 * marchMonth + 2) / 5 + 1
  let month := if marchMonth < 10 then marchMonth + 3 else marchMonth - 9
  (yearOfCycle + 400 * cycle + (if month ≤ 2 then 1 else 0), month, day)

/-- A number in at least so many digits. -/
def padded (width : Nat) (n : Int) : String :=
  let digits := natDigits n.toNat
  String.ofList (List.replicate (width - digits.length) '0' ++ digits)

/-- The time so many seconds after the beginning of 1970. -/
def ofSeconds (seconds : Int) : String :=
  let (year, month, day) := civil (Int.fdiv seconds 86400)
  let rest := Int.fmod seconds 86400
  padded 4 year ++ "-" ++ padded 2 month ++ "-" ++ padded 2 day ++ "T" ++ padded 2 (rest / 3600)
    ++ ":" ++ padded 2 (rest / 60 % 60) ++ ":" ++ padded 2 (rest % 60) ++ "Z"

end RefNav.Timestamp

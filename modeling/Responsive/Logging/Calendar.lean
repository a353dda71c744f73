import Responsive.Text.Decimal

/-!
# Calendar

The date and time of day, in universal time, of a moment that is given in seconds since the
beginning of 1970. Years are counted from March, so that a leap day ends its year.
-/

set_option autoImplicit false
set_option relaxedAutoImplicit false

namespace Responsive.Logging.Calendar

/-- A calendar day. -/
structure Date where
  year : Nat
  month : Nat
  day : Nat
deriving DecidableEq, Repr

/-- The days from the first of March of the year 0 to the beginning of 1970. -/
def epoch : Nat := 719468

/-- The number of days before a year that is counted from March. -/
def daysBefore (year : Nat) : Nat :=
  365 * year + year / 4 - year / 100 + year / 400

/-- The year, counted from March, that a day belongs to. -/
def marchYear (day : Nat) : Nat :=
  let year := day / 365
  let slack := (daysBefore year - day + 364) / 365
  if daysBefore (year - slack + 1) ≤ day then year - slack + 1 else year - slack

/-- The date of a day that is counted from the beginning of 1970. -/
def dateOf (day : Nat) : Date :=
  let day := day + epoch
  let year := marchYear day
  let inYear := day - daysBefore year
  let month := (5 * inYear + 2) / 153
  let first := (153 * month + 2) / 5
  { year := if month < 10 then year else year + 1
    month := if month < 10 then month + 3 else month - 9
    day := inYear - first + 1 }

/-- A number with at least so many digits. -/
def padded (width n : Nat) : String :=
  let digits := Text.decimalNat n
  .ofList (List.replicate (width - digits.length) '0' ++ digits)

/-- A moment as `year-month-day-hour-minute`. -/
def moment (seconds : Nat) : String :=
  let date := dateOf (seconds / 86400)
  "-".intercalate
    [padded 4 date.year, padded 2 date.month, padded 2 date.day,
      padded 2 (seconds / 3600 % 24), padded 2 (seconds / 60 % 60)]

/-- A moment as it is written in front of a log line. -/
def timestamp (seconds micros : Nat) : String :=
  let date := dateOf (seconds / 86400)
  s!"{padded 4 date.year}-{padded 2 date.month}-{padded 2 date.day}T" ++
    s!"{padded 2 (seconds / 3600 % 24)}:{padded 2 (seconds / 60 % 60)}:{padded 2 (seconds % 60)}" ++
    s!".{padded 6 micros}Z"

end Responsive.Logging.Calendar

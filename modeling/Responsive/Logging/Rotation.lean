import Responsive.Text.Blank
import Responsive.Text.Lowercase

/-!
# Rotation of log files

How long one log file lasts. The name of a file carries the period it belongs to, cut from a moment
that is written `year-month-day-hour-minute`; a file that lasts forever carries none.
-/

set_option autoImplicit false
set_option relaxedAutoImplicit false

namespace Responsive.Logging

/-- How long one log file lasts. -/
inductive Rotation
  | minutely
  | hourly
  | daily
  | never
deriving DecidableEq, Repr, Inhabited

namespace Rotation

/-- All rotations. -/
def all : List Rotation :=
  [minutely, hourly, daily, never]

/-- The name of a rotation. -/
def name : Rotation → String
  | minutely => "minutely"
  | hourly => "hourly"
  | daily => "daily"
  | never => "never"

/-- A text as it is compared with the names: without blanks around it, in lower case. -/
def normalized (s : String) : String :=
  .ofList (Text.lowerAscii (Text.trim s.toList))

/-- Reads a rotation. -/
def ofText? (s : String) : Option Rotation :=
  all.find? (·.name == normalized s)

/-- The part of a moment that names its period. -/
def period? (rotation : Rotation) (moment : String) : Option String :=
  match rotation with
  | minutely => some (.ofList (moment.toList.take 16))
  | hourly => some (.ofList (moment.toList.take 13))
  | daily => some (.ofList (moment.toList.take 10))
  | never => none

/-- The end of the names of log files. -/
def fileSuffix : String := "log"

/-- The name of a log file. -/
def fileName (rotation : Rotation) (logger moment : String) : String :=
  match rotation.period? moment with
  | none => s!"{logger}.{fileSuffix}"
  | some period => s!"{logger}.{period}.{fileSuffix}"

/-- Every name is read as the rotation it names. -/
theorem ofText?_name (rotation : Rotation) : ofText? rotation.name = some rotation := by
  cases rotation <;> decide +kernel

end Rotation

end Responsive.Logging

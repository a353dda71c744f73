import Responsive.Settings.Error

/-!
# Errors of the breakpoint feature
-/

set_option autoImplicit false
set_option relaxedAutoImplicit false

namespace Responsive

/-- Why a breakpoint operation failed. -/
inductive BreakpointCause
  | settings (cause : SettingsError)
  /-- The stylesheet in place of the bundled one cannot be read. -/
  | stylesheet (cause : IoError)
deriving DecidableEq, Repr

/-- An error of the breakpoint feature. -/
abbrev BreakpointError := Layered BreakpointCause

namespace BreakpointCause

/-- What kind of error a cause makes. -/
def title : BreakpointCause → String
  | settings _ => "Breakpoint settings failure"
  | stylesheet _ => "Responsive stylesheet unavailable"

/-- The texts of the error below and of those below it. -/
def sources : BreakpointCause → List String
  | settings e => SettingsError.message e :: SettingsError.sources e
  | stylesheet e => [e.message]

/-- The detail of a cause. -/
def detail : BreakpointCause → String
  | settings e => SettingsError.message e
  | stylesheet e => e.message

end BreakpointCause

namespace BreakpointError

/-- The text of an error. -/
def message (e : BreakpointError) : String :=
  Layered.layerText e.cause.title e.context e.cause.detail

/-- The texts of the errors below this one. -/
def sources (e : BreakpointError) : List String :=
  e.cause.sources

end BreakpointError

end Responsive

import Responsive.Delivery.Error

/-!
# Errors of the frontend
-/

set_option autoImplicit false
set_option relaxedAutoImplicit false

namespace Responsive

/-- Why a frontend operation failed. -/
inductive FrontendCause
  | settings (cause : SettingsError)
  | breakpoints (cause : BreakpointError)
deriving DecidableEq, Repr

/-- An error of the frontend. -/
abbrev FrontendError := Layered FrontendCause

namespace FrontendCause

/-- What kind of error a cause makes. -/
def title : FrontendCause → String
  | settings _ => "Settings store failure"
  | breakpoints _ => "Breakpoint failure"

/-- The detail of a cause. -/
def detail : FrontendCause → String
  | settings e => SettingsError.message e
  | breakpoints e => BreakpointError.message e

/-- The texts of the error below and of those below it. -/
def sources : FrontendCause → List String
  | settings e => SettingsError.message e :: SettingsError.sources e
  | breakpoints e => BreakpointError.message e :: BreakpointError.sources e

end FrontendCause

namespace FrontendError

/-- The text of an error. -/
def message (e : FrontendError) : String :=
  Layered.layerText e.cause.title e.context e.cause.detail

/-- The texts of the errors below this one. -/
def sources (e : FrontendError) : List String :=
  e.cause.sources

end FrontendError

end Responsive

import Responsive.Frontend.Error
import Responsive.Logging.Logger

/-!
# Errors on their way out

An error of any part of the library, or of an error type declared elsewhere. On its way out it can
be given a remark, which belongs to its outermost layer and replaces the one there, and it can
become the cause of an error further out. A step that does not apply leaves it as it is.

Of an error type that is declared elsewhere only the texts are known. A configuration that cannot be
loaded is such an error: its detail is the complaint of the reader of its format.
-/

set_option autoImplicit false
set_option relaxedAutoImplicit false

namespace Responsive

/-- A variant of an error type declared elsewhere. -/
structure DeclaredError where
  title : String
  detail : String
  /-- Whether the variant has room for a remark. -/
  hasContext : Bool := true
  /-- Whether the detail is the text of an error below. -/
  hasSource : Bool := false
  /-- The texts of the errors below that one. -/
  deeper : List String := []
deriving DecidableEq, Repr

/-- An error of any level. -/
inductive ErrorChain
  | settings (e : SettingsError)
  | breakpoints (e : BreakpointError)
  | frontend (e : FrontendError)
  | logger (e : LoggerError)
  | declared (e : Layered DeclaredError)
deriving DecidableEq, Repr

namespace ErrorChain

/-- The error with a remark on its outermost layer. -/
def withContext (context : String) : ErrorChain → ErrorChain
  | settings e => settings (e.withContext context)
  | breakpoints e => breakpoints (e.withContext context)
  | frontend e => frontend (e.withContext context)
  | logger e => logger (e.withContext context)
  | declared e => if e.cause.hasContext then declared (e.withContext context) else declared e

/-- The error as the cause of a breakpoint error. -/
def toBreakpoints (context : Option String) : ErrorChain → ErrorChain
  | settings e => breakpoints { cause := .settings e, context }
  | e => e

/-- The error as the cause of a frontend error. -/
def toFrontend (context : Option String) : ErrorChain → ErrorChain
  | settings e => frontend { cause := .settings e, context }
  | breakpoints e => frontend { cause := .breakpoints e, context }
  | e => e

/-- The text of the error. -/
def message : ErrorChain → String
  | settings e => SettingsError.message e
  | breakpoints e => BreakpointError.message e
  | frontend e => FrontendError.message e
  | logger e => LoggerError.message e
  | declared e => Layered.layerText e.cause.title e.context e.cause.detail

/-- The texts of the errors below this one. -/
def sources : ErrorChain → List String
  | settings e => SettingsError.sources e
  | breakpoints e => BreakpointError.sources e
  | frontend e => FrontendError.sources e
  | logger e => LoggerError.sources e
  | declared e => if e.cause.hasSource then e.cause.detail :: e.cause.deeper else []

/-- The errors that others become the causes of. -/
inductive Wrapper
  | breakpoints
  | frontend
deriving DecidableEq, Repr

/-- What can happen to an error. -/
inductive Step
  /-- It is given a remark. -/
  | remark (context : String)
  /-- It becomes the cause of an error, with a remark on that or without. -/
  | wrap (wrapper : Wrapper) (context : Option String)
deriving DecidableEq, Repr

/-- The error after a step. -/
def step (e : ErrorChain) : Step → ErrorChain
  | .remark context => e.withContext context
  | .wrap .breakpoints context => e.toBreakpoints context
  | .wrap .frontend context => e.toFrontend context

/-- The error after steps, one after the other. -/
def run (e : ErrorChain) (steps : List Step) : ErrorChain :=
  steps.foldl step e

end ErrorChain

end Responsive

import Responsive.Config.Load
import Responsive.Frontend.Error
import Responsive.Logging.Logger

/-!
# Errors of commands

Why a command failed. The report of a failure is a list of texts, from what was being done down to
the first cause.
-/

set_option autoImplicit false
set_option relaxedAutoImplicit false

namespace Responsive.CommandLine

/-- Why a command failed. -/
inductive CommandError
  /-- The frontend cannot be set up. -/
  | setup (cause : FrontendError)
  /-- The stored record is no pair of widths. -/
  | unreadableRecord (cause : SettingsError)
  /-- The widths cannot be stored. -/
  | unsaved (cause : FrontendError)
  /-- An input cannot be read; `none` is the standard one. -/
  | unreadableInput (path : Option String) (cause : IoError)
  | unwritableOutput (path : String) (cause : IoError)
  | malformedAttributes
  /-- The attributes are JSON, but no object. -/
  | wrongAttributes (value : Json)
  | logger (cause : LoggerError)
  | configuration (cause : ConfigError)
deriving Inhabited

/-- Whether a failure ends the program without a report. -/
def CommandError.isFatal : CommandError → Bool
  | logger e => e.cause == .fatal
  | _ => false

/-- The texts of a failure, the outermost first. -/
def CommandError.texts : CommandError → List String
  | setup e =>
    "Failed to initialize frontend" :: FrontendError.message e :: FrontendError.sources e
  | unreadableRecord e =>
    "Failed to read stored breakpoints" :: SettingsError.message e :: SettingsError.sources e
  | unsaved e => FrontendError.message e :: FrontendError.sources e
  | unreadableInput (some path) e => [s!"Failed to read {path}", e.message]
  | unreadableInput none e => ["Failed to read stdin", e.message]
  | unwritableOutput path e => [s!"Failed to write {path}", e.message]
  | malformedAttributes =>
    ["Block attributes are not valid JSON", Json.DecodeError.message .malformed]
  | wrongAttributes value => [s!"Block attributes must be a JSON object, got {value.compact}"]
  | logger e => LoggerError.message e :: LoggerError.sources e
  | configuration e => ["Critical: Configuration is malformed", e.message]

end Responsive.CommandLine

import Responsive.CommandLine.Run

/-!
# The program

A run of the program, from its arguments to its exit code: the command line is read, the
configuration loaded, the logger set up and the command run, and each of these steps can end the
run.
-/

set_option autoImplicit false
set_option relaxedAutoImplicit false

namespace Responsive.CommandLine

/-- The name of the program. -/
def programName : String := "rebreak"

/-- The version of the program. -/
def programVersion : String := "0.0.0"

/-- What the program prints and how it ends. -/
structure Outcome where
  code : Nat
  out : String := ""
  /-- The lines that go to the standard error output. -/
  complaints : List String := []
deriving DecidableEq, Repr

/-- The text of the help. -/
def helpText : String :=
  "\n".intercalate
    ["Retarget the responsive breakpoints of generated stylesheets", "",
      s!"Usage: {programName} [OPTIONS] <COMMAND>", "", "Commands:",
      "  resolve     Print the resolved breakpoints as JSON",
      "  set         Save breakpoint overrides (an empty value clears a tier)",
      "  adjust      Pipe CSS through the breakpoint filter",
      "  stylesheet  Show how the responsive stylesheet would be delivered",
      "  render      Post-process one rendered block fragment"] ++ "\n"

/-- How the program ends if its command line is no command. -/
def UsageError.outcome : UsageError → Outcome
  | .displayHelp => { code := 0, out := helpText }
  | .displayVersion => { code := 0, out := s!"{programName} {programVersion}\n" }
  | .displayHelpOnMissing => { code := 2, complaints := [helpText] }
  | e => { code := 2, complaints := [s!"error: {e.name}"] }

/-- How the program ends if its command fails. -/
def CommandError.outcome (e : CommandError) : Outcome where
  code := if e.isFatal then 101 else 1
  complaints :=
    match e.texts with
    | [] => []
    | text :: causes => s!"Error: {text}" :: causes.map fun cause ↦ s!"Caused by: {cause}"

/-- The variable of the environment that holds the filter of the surroundings. -/
def filterVariable : String := "RUST_LOG"

/-- The logger that a configuration asks for. -/
def loggerOptions (environment : List (String × String)) (config : LoggingConfig)
    (verbose : Bool) : Except LoggerError Logging.Options := do
  let threshold ←
    if verbose then .ok (some .debug) else Logging.parseThreshold config.level
  let output ← match config.dir with
    | none => .ok none
    | some dir => do
      let rotation ← Logging.parseRotation config.rotation
      .ok (some { dir, rotation, maxFiles := config.maxFiles, json := config.json })
  let surroundingFilter := (environment.lookup filterVariable).getD ""
  .ok { name := programName, threshold, filter := config.filter, surroundingFilter, output }

/-- The date and time of a run, as log files and log lines spell them. -/
structure Clock where
  moment : String
  timestamp : String
deriving DecidableEq, Repr

variable {m : Type → Type} [Monad m]

/-- Sets up the logger. -/
def startLogger (s : Surroundings m) (environment : List (String × String)) (clock : Clock)
    (config : LoggingConfig) (verbose : Bool) : m (Except LoggerError Logger) := do
  match loggerOptions environment config verbose with
  | .error e => return .error e
  | .ok options => Logger.setUp s.fs false clock.moment options

/-- Runs a command line that has been read. -/
def runInvocation (s : Surroundings m) (environment : List (String × String)) (clock : Clock)
    (invocation : Invocation) : m (Except CommandError String) := do
  match ← Config.load s.fs environment invocation.config with
  | .error e => return .error (.configuration e)
  | .ok config =>
    match ← startLogger s environment clock config.logging invocation.verbose with
    | .error e => return .error (.logger e)
    | .ok logger =>
      let result ← run s config invocation.command
      logger.close s.fs clock.timestamp
      return result

/-- Runs the program. -/
def runProgram (s : Surroundings m) (environment : List (String × String)) (clock : Clock)
    (args : List String) : m Outcome := do
  match parse args with
  | .error e => return e.outcome
  | .ok invocation =>
    match ← runInvocation s environment clock invocation with
    | .error e => return e.outcome
    | .ok out => return { code := 0, out }

end Responsive.CommandLine

import Responsive.Files.Basic
import Responsive.Json.Print
import Responsive.Layered
import Responsive.Logging.EventFilter
import Responsive.Logging.Rotation
import Responsive.Text.Quoted

/-!
# Loggers

A logger writes the events that its filter lets through to a file, as plain lines or as lines of
JSON, and to the console. A process has one logger; setting up a second one fails, but only after
all its preparations are made.
-/

set_option autoImplicit false
set_option relaxedAutoImplicit false

namespace Responsive

namespace Logging

/-- Output to files in a directory. -/
structure FileOutput where
  dir : String
  rotation : Rotation := .daily
  maxFiles : Nat := 7
  json : Bool := false
deriving DecidableEq, Repr

/-- What a logger is to do. Without a filter, that of the surroundings counts, as far as it can be
read, and without any directive in it the threshold holds for all events. -/
structure Options where
  name : String
  console : Bool := true
  threshold : Threshold := some .info
  filter : Option String := none
  surroundingFilter : String := ""
  output : Option FileOutput := none
deriving DecidableEq, Repr

/-- Why a logger cannot be set up. -/
inductive Cause
  /-- The log file cannot be made. -/
  | appender (doing : String) (cause : IoError)
  /-- The process has a logger already. -/
  | taken
  | invalidConfiguration (reason : String)
  | internal (reason : String)
  /-- The program cannot go on at all. -/
  | fatal
deriving DecidableEq, Repr

namespace Cause

/-- What kind of error a cause makes. -/
def title : Cause → String
  | appender .. => "Rolling file appender error"
  | taken => "Tracing subscriber error"
  | invalidConfiguration _ => "Invalid logger configuration"
  | internal _ => "Internal logger error"
  | fatal => "Fatal logger error"

/-- The detail of a cause. -/
def detail : Cause → String
  | appender doing cause => s!"{doing}: {cause.message}"
  | taken => "a global default trace dispatcher has already been set"
  | invalidConfiguration reason | internal reason => reason
  | fatal => "a part of the filter begins or ends inside a character"

/-- The texts of the error below and of those below it. -/
def sources : Cause → List String
  | appender doing cause => [s!"{doing}: {cause.message}", cause.message]
  | taken => ["a global default trace dispatcher has already been set"]
  | invalidConfiguration _ | internal _ | fatal => []

end Cause

end Logging

/-- An error in setting up a logger. -/
abbrev LoggerError := Layered Logging.Cause

namespace LoggerError

/-- The text of an error. -/
def message (e : LoggerError) : String :=
  Layered.layerText e.cause.title e.context e.cause.detail

/-- The texts of the errors below this one. -/
def sources (e : LoggerError) : List String :=
  e.cause.sources

/-- A complaint about what was asked for. -/
def refusal (reason : String) : LoggerError where
  cause := .invalidConfiguration reason

end LoggerError

namespace Logging

/-- Reads a threshold, with blanks around it. -/
def parseThreshold (s : String) : Except LoggerError Threshold :=
  match Threshold.ofText? (Text.trim s.toList) with
  | some threshold => .ok threshold
  | none => .error (.refusal s!"Unknown log level '{s}': {Threshold.refusal}")

/-- Reads a rotation, with blanks around it. -/
def parseRotation (s : String) : Except LoggerError Rotation :=
  match Rotation.ofText? s with
  | some rotation => .ok rotation
  | none => .error (.refusal s!"Unknown log rotation '{Rotation.normalized s}'")

end Logging

open Logging

/-- A logger at work. -/
structure Logger where
  filter : EventFilter
  console : Bool
  /-- The log file, and whether its lines are JSON. -/
  file : Option (String × Bool)
deriving DecidableEq, Repr

namespace Logger

/-- The error of a logger whose filter `s` cannot be read. -/
def filterError (s : String) : FilterError → LoggerError
  | .cutCharacter => { cause := .fatal }
  | e => .refusal s!"Invalid env filter '{s}': {e.message}"

/-- The filter that is asked for. -/
def filterOf (options : Options) : Except LoggerError EventFilter :=
  match options.filter with
  | none =>
    (EventFilter.ofReadable options.threshold options.surroundingFilter).mapError
      (filterError options.surroundingFilter)
  | some s => (EventFilter.ofText options.threshold s).mapError (filterError s)

/-- Checks the options and finds the filter. -/
def check (options : Options) : Except LoggerError EventFilter :=
  if (Text.trim options.name.toList).isEmpty then .error (.refusal "Logger name cannot be empty")
  else if options.output.any (·.maxFiles == 0) then
    .error (.refusal "max_files must be greater than zero")
  else filterOf options

variable {m : Type → Type} [Monad m]

/-- Opens a log file for its first line; its directory is made if that fails at first. -/
def openFile (fs : FileSystem m) (path : String) : m (Except (String × IoError) Unit) := do
  match ← fs.openAppend path with
  | .ok () => return .ok ()
  | .error e =>
    match Path.parent? path with
    | none => return .error ("failed to create log file", e)
    | some parent =>
      match ← fs.makeDirs parent with
      | .error e => return .error ("failed to create log directory", e)
      | .ok () => return (← fs.openAppend path).mapError ("failed to create log file", ·)

/-- The files that are in the way of a new log file: the oldest of those whose names begin with the
name of the logger and end as the names of log files do, so many that `maxFiles` remain with the new
one. Entries are given with the oldest first. -/
def superfluous (name : String) (maxFiles : Nat) (entries : List DirEntry) : List DirEntry :=
  let found := entries.filter fun e ↦
    e.isFile && name.toList.isPrefixOf e.name.toList &&
      Rotation.fileSuffix.toList.isSuffixOf e.name.toList
  found.take (found.length - (maxFiles - 1))

/-- Removes the files that are in the way of a new log file, as far as that works. -/
def prune (fs : FileSystem m) (name : String) (output : FileOutput) : m Unit := do
  match ← fs.list output.dir with
  | .error _ => return ()
  | .ok entries =>
    (superfluous name output.maxFiles entries).forM fun e ↦
      discard (fs.remove (Path.join output.dir e.name))

/-- Makes the log file of a logger and gives its path. -/
def prepare (fs : FileSystem m) (name moment : String) (output : FileOutput) :
    m (Except LoggerError String) := do
  match ← fs.makeDirs output.dir with
  | .error e =>
    return .error
      { cause := .internal e.message
        context := some s!"Failed to create log directory {output.dir}" }
  | .ok () =>
    prune fs name output
    let path := Path.join output.dir (output.rotation.fileName name moment)
    match ← openFile fs path with
    | .ok () => return .ok path
    | .error (doing, e) =>
      return .error { cause := .appender doing e, context := some s!"Log directory {output.dir}" }

/-- Sets up a logger; `installed` says whether the process has one. -/
def setUp (fs : FileSystem m) (installed : Bool) (moment : String) (options : Options) :
    m (Except LoggerError Logger) := do
  match check options with
  | .error e => return .error e
  | .ok filter =>
    let finish (file : Option (String × Bool)) : Except LoggerError Logger :=
      if !options.console && file.isNone then
        .error (.refusal "No logging output enabled. Enable console or file output.")
      else if installed then .error { cause := .taken }
      else .ok { filter, console := options.console, file }
    match options.output with
    | none => return finish none
    | some output =>
      match ← prepare fs options.name moment output with
      | .error e => return .error e
      | .ok path => return finish (some (path, output.json))

/-- An event as a plain line, its level flush right. -/
def plainLine (timestamp : String) (event : Event) : String :=
  let label := event.level.label
  let padding := String.ofList (List.replicate (5 - label.length) ' ')
  let fields := event.fields.map fun field ↦ s!" {field.1}=" ++ Text.quoted field.2
  s!"{timestamp} {padding}{label} {event.target}: {event.message}" ++ String.join fields

/-- An event as a line of JSON. -/
def jsonLine (timestamp : String) (event : Event) : String :=
  Json.compactRecord
    [("timestamp", .text timestamp), ("level", .text event.level.label),
      ("fields", .object
        (("message", .text event.message) :: event.fields.map fun f ↦ (f.1, .text f.2))),
      ("target", .text event.target)]

/-- Logs an event to the file, if there is one and the filter lets the event through. -/
def log (fs : FileSystem m) (logger : Logger) (timestamp : String) (event : Event) : m Unit := do
  match logger.file with
  | none => return ()
  | some (path, json) =>
    if logger.filter.allows event then
      let line := if json then jsonLine timestamp event else plainLine timestamp event
      discard (fs.append path (line ++ "\n"))

/-- The last event of a logger with a file. -/
def flushEvent : Event where
  level := .debug
  target := "rebreak_logger"
  message := "Flushing file log output"

/-- Closes a logger. -/
def close (fs : FileSystem m) (logger : Logger) (timestamp : String) : m Unit :=
  logger.log fs timestamp flushEvent

end Logger

end Responsive

import Responsive.CommandLine.Command
import Responsive.CommandLine.Error
import Responsive.Frontend.Basic

/-!
# Running commands

Every command sets up a frontend of its own and answers with the text that it prints. A command that
stores widths reads the stored pair, puts the given widths in it and stores the whole pair, so a
width that is not given keeps its stored value.
-/

set_option autoImplicit false
set_option relaxedAutoImplicit false

namespace Responsive.CommandLine

/-- The surroundings of a run. -/
structure Surroundings (m : Type → Type) where
  fs : FileSystem m
  /-- The name of this process in the names of temporary files. -/
  process : String
  /-- The standard input. -/
  input : m (Except IoError Content)

/-- A command at work: it changes the frontend and may fail. -/
abbrev Task (m : Type → Type) (α : Type) := ExceptT CommandError (StateT Frontend m) α

variable {m : Type → Type} [Monad m]

/-- Runs an operation in a task. -/
def perform {α : Type} (op : m α) : Task m α :=
  monadLift op

/-- A pair with the given widths in it, without the blanks around them. -/
def withGiven (b : Breakpoints) (tablet mobile : Option String) : Breakpoints where
  tablet := (tablet.map Text.trimmed).getD b.tablet
  mobile := (mobile.map Text.trimmed).getD b.mobile

/-- A value as printed output. -/
def report (value : Json) : String :=
  value.pretty ++ "\n"

/-- Runs a step of a new request. -/
def inRequest {α : Type} (step : Site → m Stored → StateT Request m α) : Task m (α × Request) := do
  let frontend ← get
  perform ((step frontend.site (pure frontend.stored)).run {})

/-- Shows the pair in force, the customized tiers and the defaults. -/
def resolve : Task m String := do
  let (r, _) ← inRequest Request.breakpoints
  let frontend ← get
  return report <| .ofPairs
    [("tablet", .text (r.get .tablet)), ("mobile", .text (r.get .mobile)),
      ("custom", .texts (r.custom.toList.map Tier.name)),
      ("defaults", frontend.site.hooks.defaults.toJson)]

/-- The stored pair. -/
def storedPair : Task m Breakpoints := do
  let frontend ← get
  match frontend.store.getOrDefault Breakpoints.decoder overridesName with
  | .ok b => return b
  | .error e => throw (.unreadableRecord e)

/-- Stores a pair. -/
def save (fs : FileSystem m) (b : Breakpoints) : Task m Unit := do
  match ← (Frontend.saveBreakpoints fs b).run with
  | .ok () => return ()
  | .error e => throw (.unsaved e)

/-- Stores the given widths, and shows the pair in force. -/
def setWidths (fs : FileSystem m) (tablet mobile : Option String) : Task m String := do
  save fs (withGiven (← storedPair) tablet mobile)
  resolve

/-- The text of a file, or of the standard input. -/
def readInput (s : Surroundings m) (file : Option String) : Task m String := do
  let read : m (Except IoError String) :=
    match file with
    | some path => s.fs.readText path
    | none => return (← s.input) >>= Content.text?
  match ← perform read with
  | .ok text => return text
  | .error e => throw (.unreadableInput file e)

/-- Filters a stylesheet; the result is printed or goes to a file. -/
def adjust (s : Surroundings m) (file output : Option String) : Task m String := do
  let css ← readInput s file
  let (adjusted, _) ← inRequest fun site load ↦ Request.adjustCss site load css
  match output with
  | none => return adjusted
  | some path =>
    match ← perform (s.fs.write path adjusted) with
    | .ok () => return ""
    | .error e => throw (.unwritableOutput path e)

/-- Shows how the responsive stylesheet is delivered, or the text that reaches the page. -/
def stylesheet (raw : Bool) : Task m String := do
  let (style, _) ← inRequest Request.pageStyle
  if raw then return (← get).site.delivery.pageCss style
  else return report style.toJson

/-- The attributes of a block, written as JSON. -/
def readAttributes (s : String) : Except CommandError (Entries Json) :=
  match Json.read? s with
  | none => .error .malformedAttributes
  | some (.object attributes) => .ok attributes
  | some value => .error (.wrongAttributes value)

/-- Renders a fragment, and shows it with the fonts that it asks for. -/
def render (s : Surroundings m) (name : String) (attrs file : Option String) : Task m String := do
  let attributes ← match attrs with
    | none => pure []
    | some text => liftExcept (readAttributes text)
  let content ← readInput s file
  let block : Block := { name := some name, attributes }
  let (fragment, request) ← inRequest fun site load ↦
    Request.render site load block (some content)
  let frontend ← get
  return report <| .ofPairs
    [("content", .ofOption .text (fragment.map (·.content))),
      ("fonts", .texts request.fonts.fonts),
      ("fonts_url", .ofOption .text (request.fonts.url? frontend.site.fonts))]
where
  liftExcept {α : Type} : Except CommandError α → Task m α
    | .ok a => return a
    | .error e => throw e

/-- Runs a command with a frontend. -/
def runWith (s : Surroundings m) : Command → Task m String
  | .resolve => resolve
  | .set tablet mobile => setWidths s.fs tablet mobile
  | .adjust file output => adjust s file output
  | .stylesheet raw => stylesheet raw
  | .render block attrs file => render s block attrs file

/-- Sets up a frontend and runs a command. -/
def run (s : Surroundings m) (config : Config) (command : Command) :
    m (Except CommandError String) := do
  match ← Frontend.ofConfig s.fs s.process config with
  | .error e => return .error (.setup e)
  | .ok frontend =>
    let (result, _) ← (runWith s command).run.run frontend
    return result

end Responsive.CommandLine

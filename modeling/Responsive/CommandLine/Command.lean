import Responsive.CommandLine.Options

/-!
# Commands

The commands of the program and the options that all of them share. An option that stands before the
command and again behind it takes the value behind it.
-/

set_option autoImplicit false
set_option relaxedAutoImplicit false

namespace Responsive.CommandLine

/-- What the program is asked to do. -/
inductive Command
  /-- Show the breakpoints in force. -/
  | resolve
  /-- Store the widths that are given. -/
  | set (tablet mobile : Option String)
  /-- Send a stylesheet through the filter. -/
  | adjust (file output : Option String)
  /-- Show how the responsive stylesheet is delivered, or the text that reaches the page. -/
  | stylesheet (raw : Bool)
  /-- Render one fragment of a page. -/
  | render (block : String) (attrs file : Option String)
deriving DecidableEq, Repr

/-- A whole command line. -/
structure Invocation where
  config : Option String := none
  verbose : Bool := false
  command : Command
deriving DecidableEq, Repr

/-- The parameters of all commands. -/
inductive Key
  | config
  | verbose
  | help
  | version
  | tablet
  | mobile
  | file
  | output
  | raw
  | block
  | attrs
deriving DecidableEq, Repr

/-- The options of every level. -/
def sharedOptions : List (Parameter Key) :=
  [⟨.config, .path, "config", some 'c'⟩, ⟨.verbose, .flag, "verbose", some 'v'⟩,
    ⟨.help, .help, "help", some 'h'⟩]

/-- The command that shows help. -/
def helpCommand : String := "help"

/-- The names of all commands. -/
def commandNames : List String :=
  ["resolve", "set", "adjust", "stylesheet", "render", helpCommand]

/-- What stands before the command. -/
def outerGrammar : Grammar Key where
  options := sharedOptions ++ [⟨.version, .version, "version", some 'V'⟩]
  commands := commandNames

/-- What stands behind a command, and how the command is made from it. -/
structure Form where
  grammar : Grammar Key
  command : Reading Key → Except UsageError Command

/-- A form with options of its own. -/
def Form.of (options positional : List (Parameter Key))
    (command : Reading Key → Except UsageError Command) : Form where
  grammar := { options := options ++ sharedOptions, positional }
  command

/-- The form of a command. -/
def form? (name : String) : Option Form :=
  match name with
  | "resolve" => some (.of [] [] fun _ ↦ .ok .resolve)
  | "set" =>
    some <| .of
      [⟨.tablet, .text, "tablet", some 't'⟩, ⟨.mobile, .text, "mobile", some 'm'⟩] []
      fun r ↦ .ok (.set (r.get? .tablet) (r.get? .mobile))
  | "adjust" =>
    some <| .of [⟨.output, .path, "output", some 'o'⟩] [⟨.file, .path, "", none⟩]
      fun r ↦ .ok (.adjust (r.get? .file) (r.get? .output))
  | "stylesheet" =>
    some <| .of [⟨.raw, .flag, "raw", none⟩] [] fun r ↦ .ok (.stylesheet (r.has .raw))
  | "render" =>
    some <| .of [⟨.block, .text, "block", some 'b'⟩, ⟨.attrs, .text, "attrs", some 'a'⟩]
      [⟨.file, .path, "", none⟩] fun r ↦
        match r.get? .block with
        | some block => .ok (.render block (r.get? .attrs) (r.get? .file))
        | none => .error .missingRequiredArgument
  | _ => none

/-- What the help command answers: help on a command, or a complaint about a name that is none. No
command has commands of its own. -/
def helpOn : List String → UsageError
  | [] => .displayHelp
  | [name] => if commandNames.contains name then .displayHelp else .invalidSubcommand
  | _ => .invalidSubcommand

/-- Reads what stands behind a command. -/
def readCommand (name : String) (args : List String) : Except UsageError (Reading Key × Command) :=
  match form? name with
  | none => .error (helpOn args)
  | some form => do
    let (r, _) ← readArgs form.grammar {} args
    let r ← r.settle
    .ok (r, ← form.command r)

/-- Reads a command line. Faults behind the command are reported before the faults of an option
that is still pending in front of it. -/
def parse (args : List String) : Except UsageError Invocation := do
  match ← readArgs outerGrammar {} args with
  | (outer, none) =>
    let outer ← outer.settle
    if outer.given.isEmpty then .error .displayHelpOnMissing else .error .missingSubcommand
  | (outer, some (name, rest)) =>
    let (inner, command) ← readCommand name rest
    let outer ← outer.settle
    .ok
      { config := inner.get? .config <|> outer.get? .config
        verbose := inner.has .verbose || outer.has .verbose
        command }

end Responsive.CommandLine

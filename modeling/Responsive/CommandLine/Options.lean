/-!
# Options on a command line

Reading the arguments of one level of a command line against a list of parameters. An option is
written with two hyphens and its long name, or with one hyphen and its letter; letters of options
without value may share a hyphen. A value follows its option as the next argument, behind an equals
sign, or directly behind the letter. Two hyphens alone end the options.

A parameter that is met becomes pending, and is checked and noted down when the next one is met or
the arguments end. A fault of the spelling, such as an unknown option, is reported before a fault of
a pending parameter.

* `readArgs_nil`: what is left when the arguments end.
-/

set_option autoImplicit false
set_option relaxedAutoImplicit false

namespace Responsive.CommandLine

/-- What is wrong with a command line, or what it asks for in place of a command. -/
inductive UsageError
  | displayHelp
  | displayVersion
  /-- Help is shown because there is nothing else to do. -/
  | displayHelpOnMissing
  | invalidSubcommand
  | missingSubcommand
  | unknownArgument
  /-- A value is missing, or empty where it must not be. -/
  | invalidValue
  | tooManyValues
  /-- A parameter is given twice. -/
  | argumentConflict
  | missingRequiredArgument
deriving DecidableEq, Repr

namespace UsageError

/-- The name of an error. -/
def name : UsageError → String
  | displayHelp => "DisplayHelp"
  | displayVersion => "DisplayVersion"
  | displayHelpOnMissing => "DisplayHelpOnMissingArgumentOrSubcommand"
  | invalidSubcommand => "InvalidSubcommand"
  | missingSubcommand => "MissingSubcommand"
  | unknownArgument => "UnknownArgument"
  | invalidValue => "InvalidValue"
  | tooManyValues => "TooManyValues"
  | argumentConflict => "ArgumentConflict"
  | missingRequiredArgument => "MissingRequiredArgument"

end UsageError

/-- What a parameter takes. -/
inductive Kind
  | flag
  | help
  | version
  | text
  /-- The name of a file, which is not empty. -/
  | path
deriving DecidableEq, Repr

/-- Whether a value belongs to a parameter. -/
def Kind.takesValue : Kind → Bool
  | text | path => true
  | flag | help | version => false

/-- A parameter under a key. -/
structure Parameter (κ : Type) where
  key : κ
  kind : Kind
  long : String := ""
  short : Option Char := none
deriving Repr

/-- What one level of a command line knows: options, parameters by position, and commands that open
the next level. -/
structure Grammar (κ : Type) where
  options : List (Parameter κ)
  positional : List (Parameter κ) := []
  commands : List String := []

/-- What has been read so far. -/
structure Reading (κ : Type) where
  /-- The parameters noted down, with their values. -/
  given : List (κ × String) := []
  /-- The parameter that was met last, and its value if it is there already. -/
  pending : Option (Parameter κ × Option String) := none
  /-- Whether the options have ended. -/
  trailing : Bool := false
  /-- The number of arguments taken by their position. -/
  taken : Nat := 0

namespace Reading

variable {κ : Type} [BEq κ]

/-- The value given for a parameter. -/
def get? (r : Reading κ) (key : κ) : Option String :=
  r.given.lookup key

/-- Whether a parameter is given. -/
def has (r : Reading κ) (key : κ) : Bool :=
  (r.get? key).isSome

/-- Whether the next argument belongs to the pending option. -/
def isWaiting (r : Reading κ) : Bool :=
  match r.pending with
  | some (_, none) => true
  | _ => false

/-- Notes a parameter down. -/
def note (r : Reading κ) (p : Parameter κ) (value : String) : Except UsageError (Reading κ) :=
  if r.has p.key then .error .argumentConflict
  else if p.kind == .path && value.isEmpty then .error .invalidValue
  else .ok { r with given := r.given ++ [(p.key, value)] }

/-- Notes the pending parameter down. -/
def settle (r : Reading κ) : Except UsageError (Reading κ) :=
  match r.pending with
  | none => .ok r
  | some (_, none) => .error .invalidValue
  | some (p, some value) => note { r with pending := none } p value

/-- Meets an option without value. -/
def meetFlag (r : Reading κ) (p : Parameter κ) : Except UsageError (Reading κ) := do
  let r ← r.settle
  match p.kind with
  | .help => .error .displayHelp
  | .version => .error .displayVersion
  | _ => r.note p ""

/-- Meets an option with its value, or with the value still to come. -/
def meetOption (r : Reading κ) (p : Parameter κ) (value : Option String) :
    Except UsageError (Reading κ) := do
  let r ← r.settle
  match value with
  | some value => r.note p value
  | none => .ok { r with pending := some (p, none) }

/-- Takes an argument that begins with two hyphens. -/
def takeLong (g : Grammar κ) (r : Reading κ) (name : String) (value : Option String) :
    Except UsageError (Reading κ) :=
  match g.options.find? (·.long == name) with
  | none => .error .unknownArgument
  | some p =>
    if p.kind.takesValue then r.meetOption p value
    else if value.isSome then .error .tooManyValues
    else r.meetFlag p

/-- Takes the letters behind one hyphen. -/
def takeShorts (g : Grammar κ) (r : Reading κ) : List Char → Except UsageError (Reading κ)
  | [] => .ok r
  | c :: rest =>
    match g.options.find? (·.short == some c) with
    | none => .error .unknownArgument
    | some p =>
      if p.kind.takesValue then
        r.meetOption p <|
          match rest with
          | [] => none
          | '=' :: value => some (.ofList value)
          | value => some (.ofList value)
      else do takeShorts g (← r.meetFlag p) rest

/-- What is said about an argument for which there is no place. -/
def misplaced (g : Grammar κ) (r : Reading κ) (arg : String) : UsageError :=
  if g.commands.isEmpty then .unknownArgument
  else if r.trailing && g.commands.contains arg then .unknownArgument
  else .invalidSubcommand

/-- Takes an argument by its position. -/
def takePositional (g : Grammar κ) (r : Reading κ) (arg : String) :
    Except UsageError (Reading κ) :=
  match g.positional[r.taken]? with
  | none => .error (misplaced g r arg)
  | some p => do
    let r ← r.settle
    .ok { r with pending := some (p, some arg), taken := r.taken + 1 }

/-- The value of the pending option has come. -/
def supply (r : Reading κ) (arg : String) : Reading κ :=
  { r with pending := r.pending.map fun (p, _) ↦ (p, some arg) }

end Reading

/-- How an argument is spelled. -/
inductive Spelling
  /-- Two hyphens alone. -/
  | escape
  | long (name : String) (value : Option String)
  | shorts (letters : List Char)
  | plain
deriving DecidableEq, Repr

/-- How an argument is spelled. A hyphen alone is a plain argument. -/
def Spelling.of (arg : String) : Spelling :=
  match arg.toList with
  | ['-', '-'] => escape
  | '-' :: '-' :: s =>
    long (.ofList (s.takeWhile (· != '=')))
      (match s.dropWhile (· != '=') with
        | [] => none
        | _ :: value => some (.ofList value))
  | '-' :: c :: s => shorts (c :: s)
  | _ => plain

variable {κ : Type} [BEq κ]

/-- Reads arguments up to their end or up to a command, which is returned with the arguments behind
it. -/
def readArgs (g : Grammar κ) (r : Reading κ) :
    List String → Except UsageError (Reading κ × Option (String × List String))
  | [] => .ok (r, none)
  | arg :: rest =>
    if r.trailing then do readArgs g (← r.takePositional g arg) rest
    else if !r.isWaiting && g.commands.contains arg then .ok (r, some (arg, rest))
    else
      match Spelling.of arg with
      | .escape => readArgs g { r with trailing := true } rest
      | .long name value => do readArgs g (← r.takeLong g name value) rest
      | .shorts letters => do readArgs g (← r.takeShorts g letters) rest
      | .plain =>
        if r.isWaiting then readArgs g (r.supply arg) rest
        else do readArgs g (← r.takePositional g arg) rest

@[simp] theorem readArgs_nil (g : Grammar κ) (r : Reading κ) :
    readArgs g r [] = .ok (r, none) := rfl

end Responsive.CommandLine

import Responsive.Config.Document
import Responsive.Config.Environment
import Responsive.Config.Merge
import Responsive.Files.Basic
import Responsive.Ini
import Responsive.Json.Relaxed
import Responsive.Ron.Document
import Responsive.Toml.Document
import Responsive.Yaml.Document

/-!
# Loading the configuration

The configuration comes from a file, in one of several formats, with the environment on top. A file
that is named must exist. Without a name, a file of the usual name is taken if there is one. A name
may lack its extension.
-/

set_option autoImplicit false
set_option relaxedAutoImplicit false

namespace Responsive

/-- Why there is no configuration. -/
inductive ConfigError
  /-- A source is missing or cannot be read. -/
  | unbuildable
  /-- The values do not make a configuration. -/
  | mismatched
deriving DecidableEq, Repr

/-- The text of an error. -/
def ConfigError.message : ConfigError → String
  | unbuildable => "Failed to build config"
  | mismatched => "Failed to deserialize config"

namespace Config

/-- The formats of configuration files. -/
inductive Format
  | toml
  | json
  | yaml
  | ini
  | ron
  | relaxedJson
deriving DecidableEq, Repr

namespace Format

/-- The extensions of files, in the order in which they are looked for, with their formats. -/
def extensions : List (String × Format) :=
  [("toml", toml), ("json", json), ("yaml", yaml), ("yml", yaml), ("ini", ini), ("ron", ron),
    ("json5", relaxedJson)]

/-- The format of the files with an extension. -/
def ofExtension? (extension : String) : Option Format :=
  extensions.lookup extension

end Format

/-- The name of the file that is looked for if none is named, without its extension. -/
def usualName : String := "rebreak"

/-- The values of a file, which must be an object. -/
def parse (format : Format) (s : String) : Except ConfigError (Entries Json) :=
  let value := match format with
    | .toml => Toml.read? s
    | .json => Json.read? s
    | .yaml => Yaml.read? s
    | .ini => Ini.read? s
    | .ron => Ron.read? s
    | .relaxedJson => Json.Relaxed.read? s
  match value with
  | some (.object members) => .ok members
  | _ => .error .unbuildable

variable {m : Type → Type} [Monad m]

/-- The part of a path that its extension follows. A path that ends as a directory does has no name,
and is taken to end in a placeholder. -/
def stem (path : String) : String :=
  if path.isEmpty || Path.endsInSlash path then path ++ ".placeholder" else path

/-- The first file that is there, of a path with each of the extensions. -/
def findExtended (fs : FileSystem m) (path : String) :
    List (String × Format) → m (Option (String × Format))
  | [] => return none
  | (extension, format) :: others => do
    let candidate := stem path ++ "." ++ extension
    if ← fs.isFile candidate then return some (candidate, format)
    else findExtended fs path others

/-- The file that a path stands for: the one of exactly that name, whose extension then has to be
known, or else one whose extension is left out. -/
def find (fs : FileSystem m) (path : String) : m (Option (String × Format)) := do
  if ← fs.isFile path then
    return ((Path.extension? path).bind Format.ofExtension?).map (path, ·)
  else findExtended fs path Format.extensions

/-- The values of a file. A file that nobody named may be missing. -/
def fromFile (fs : FileSystem m) (path : Option String) :
    m (Except ConfigError (Entries Json)) := do
  let missing : Except ConfigError (Entries Json) :=
    if path.isSome then .error .unbuildable else .ok []
  match ← find fs (path.getD usualName) with
  | none => return missing
  | some (file, format) =>
    match ← fs.read file with
    | .error _ => return missing
    | .ok content => return parse format (.ofList (Text.withoutMark content.lossyText.toList))

/-- Loads the configuration. -/
def load (fs : FileSystem m) (environment : List (String × String)) (path : Option String) :
    m (Except ConfigError Config) := do
  match ← fromFile fs path with
  | .error e => return .error e
  | .ok values =>
    let merged := overlay (overlay (.object []) values) (ofEnvironment environment)
    return (Json.decodeValue decoder merged).mapError fun _ ↦ .mismatched

end Config

end Responsive

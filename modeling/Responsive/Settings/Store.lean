import Responsive.Settings.Definition
import Responsive.Text.Blank

/-!
# The settings store

A store holds definitions and records by name, in memory or backed by a document. Every update
writes the whole document to a new file beside it and moves that file over the document, so the
document is always either the old one or the new one. The records in memory change only after that
succeeded.

Opening a document removes files that updates of the same document left behind long ago.
-/

set_option autoImplicit false
set_option relaxedAutoImplicit false

namespace Responsive

/-- A settings store. -/
structure Store where
  /-- The document, if there is one. -/
  path : Option String := none
  /-- The name of this process in the names of temporary files. -/
  process : String := ""
  definitions : Entries Definition := []
  records : Entries Json := []
  /-- The number of the next temporary file. -/
  nextTemp : Nat := 1
deriving Inhabited

namespace Store

open Json

/-- What separates the name of a document from the rest of the name of its temporary files. -/
def tempMarker : String := ".rebreaktmp."

/-- The age up to which a temporary file is taken to be in use: 300 seconds, in nanoseconds. -/
def staleAfter : Int := 300 * 1000000000

/-- A store without a document. -/
def inMemory : Store := {}

/-- Adds the definition of a setting. -/
def register (store : Store) (d : Definition) : Except SettingsError Store :=
  if Entries.has store.definitions d.name then .error { cause := .alreadyRegistered d.name }
  else .ok { store with definitions := Entries.insert d.name d store.definitions }

/-- Whether a setting is defined. -/
def isRegistered (store : Store) (name : String) : Bool :=
  Entries.has store.definitions name

/-- The definition of a setting. -/
def describe? (store : Store) (name : String) : Option Definition :=
  Entries.get? store.definitions name

/-- The names of all defined settings, in order. -/
def registered (store : Store) : List String :=
  Entries.names store.definitions

/-- The stored record of a setting. -/
def record? (store : Store) (name : String) : Option Json :=
  Entries.get? store.records name

/-- The stored record of a setting, decoded. -/
def get? {α : Type} (decoder : Decoder α) (store : Store) (name : String) :
    Except SettingsError (Option α) :=
  match store.record? name with
  | none => .ok none
  | some raw =>
    match decodeValue decoder raw with
    | .ok a => .ok (some a)
    | .error e =>
      .error { cause := .decoding e, context := some s!"Failed to decode setting '{name}'" }

/-- The stored record of a setting, or else the default of its definition, decoded. -/
def getOrDefault {α : Type} (decoder : Decoder α) (store : Store) (name : String) :
    Except SettingsError α := do
  match ← store.get? decoder name with
  | some a => .ok a
  | none =>
    match store.describe? name with
    | none => .error { cause := .unknownSetting name }
    | some d =>
      match decodeValue decoder d.default with
      | .ok a => .ok a
      | .error e =>
        .error { cause := .decoding e, context := some s!"Failed to decode default of '{name}'" }

/-- The text of a document with these records. -/
def documentText (records : Entries Json) : String :=
  (Json.object records).pretty ++ "\n"

/-- The start of the names of all temporary files of a document. -/
def tempStem (documentName : String) : String :=
  documentName ++ tempMarker

/-- The path of a temporary file. -/
def tempPath (document process : String) (n : Nat) : String :=
  Path.withFileName document
    (tempStem ((Path.fileName? document).getD "settings") ++ process ++ "." ++ toString n)

/-- Operations that change a store and may fail; a failure keeps the changes made before it. -/
abbrev Update (m : Type → Type) (α : Type) := ExceptT SettingsError (StateT Store m) α

variable {m : Type → Type} [Monad m]

/-- Runs a file operation inside an update, with a remark for its failure. -/
def attempt {α : Type} (context : String) (op : m (Except IoError α)) : Update m α := do
  match ← (op : m (Except IoError α)) with
  | .ok a => return a
  | .error e => throw { cause := .io e, context := some context }

/-- Moves a temporary file over a document. If it cannot be moved, it is removed. -/
def moveOver (fs : FileSystem m) (temp path : String) : Update m Unit := do
  match ← (fs.rename temp path : m (Except IoError Unit)) with
  | .ok () => return ()
  | .error e =>
    discard (fs.remove temp : m (Except IoError Unit))
    throw { cause := .io e, context := some s!"Atomic swap failed: {temp} -> {path}" }

/-- Writes a text to a new file and moves that over a document. -/
def replaceDocument (fs : FileSystem m) (path temp text : String) : Update m Unit := do
  attempt s!"Temp creation failed: {temp}" (fs.createNew temp)
  attempt "Write failed" (fs.write temp text)
  attempt "Hardware sync failed" (fs.sync temp)
  moveOver fs temp path

/-- Makes the directory that a document is in. -/
def makeParent (fs : FileSystem m) (path : String) : Update m Unit :=
  match Path.parent? path with
  | none => pure ()
  | some parent =>
    if parent.isEmpty then pure ()
    else attempt s!"Failed to create settings directory: {parent}" (fs.makeDirs parent)

/-- Writes a document, whose directory is made if necessary. -/
def persist (fs : FileSystem m) (records : Entries Json) : Update m Unit := do
  let store ← get
  match store.path with
  | none => return ()
  | some path =>
    makeParent fs path
    set { store with nextTemp := store.nextTemp + 1 }
    replaceDocument fs path (tempPath path store.process store.nextTemp) (documentText records)

/-- Persists changed records and, once that succeeded, takes them over. -/
def commit (fs : FileSystem m) (records : Entries Json) : Update m Unit := do
  persist fs records
  modify fun store ↦ { store with records }

/-- Stores a record: the part of the value that the definition lets in. -/
def set (fs : FileSystem m) (name : String) (value : Json) : Update m Unit := do
  let store ← get
  match store.describe? name with
  | none => throw { cause := .unknownSetting name }
  | some d =>
    match d.sanitize value with
    | .error e => throw e
    | .ok clean => commit fs (Entries.insert name clean store.records)

/-- Stores a record of any type that has a form as JSON, as far as it has one. -/
def setEncoded (fs : FileSystem m) (name : String) (value : Except DecodeError Json) :
    Update m Unit :=
  match value with
  | .ok value => set fs name value
  | .error e =>
    throw { cause := .decoding e, context := some s!"Failed to encode setting '{name}'" }

/-- Removes a record, and tells whether there was one. -/
def remove (fs : FileSystem m) (name : String) : Update m Bool := do
  let store ← get
  if (store.record? name).isNone then return false
  commit fs (Entries.erase name store.records)
  return true

/-- Whether a temporary file is abandoned: it is too old, or its age makes no sense. -/
def isStale : Option Int → Bool
  | none => true
  | some age => age < 0 || staleAfter < age

/-- The temporary files of a document that are abandoned, among the entries of its directory. -/
def abandoned (documentName : String) (entries : List DirEntry) : List DirEntry :=
  entries.filter fun e ↦
    e.isFile && (tempStem documentName).toList.isPrefixOf e.name.toList && isStale e.age

/-- Removes the abandoned temporary files of a document, as far as that works. -/
def purge (fs : FileSystem m) (document : String) : m Unit := do
  match Path.parent? document, Path.fileName? document with
  | some parent, some name =>
    let dir := if parent.isEmpty then "." else parent
    match ← fs.list dir with
    | .error _ => return ()
    | .ok entries =>
      (abandoned name entries).forM fun e ↦ discard (fs.remove (Path.join dir e.name))
  | _, _ => return ()

/-- The records of a document. -/
def parseDocument (path : String) (content : Content) : Except SettingsError (Entries Json) :=
  let unreadable : SettingsError :=
    { cause := .decoding .malformed
      context := some s!"Failed to parse settings document: {path}" }
  match content with
  | .binary _ => .error unreadable
  | .text s =>
    if s.toList.all Text.isAsciiBlank then .ok []
    else
      match Json.read? s with
      | none => .error unreadable
      | some (.object records) => .ok records
      | some _ =>
        .error { cause := .corrupted "top-level value is not an object", context := some path }

/-- The store of a document, from what reading the document gave. A missing document counts as empty
if it may be created. -/
def ofDocument (process path : String) (create : Bool) :
    Except IoError Content → Except SettingsError Store
  | .ok content =>
    (parseDocument path content).map fun records ↦ { path := some path, process, records }
  | .error .notFound =>
    if create then .ok { path := some path, process } else .error { cause := .notFound path }
  | .error e => .error { cause := .io e, context := some s!"Read failed: {path}" }

/-- Opens a document. -/
def openDocument (fs : FileSystem m) (process path : String) (create : Bool) :
    m (Except SettingsError Store) := do
  purge fs path
  return ofDocument process path create (← fs.read path)

end Store

end Responsive

import Responsive.Files.Basic

/-!
# A disk in memory

A tree of directories and files, and a working directory from which relative paths start. There are
no links, so `..` leads to the directory that holds the current one. The names in a directory stand
in the order in which they were made. The age of a file is kept in nanoseconds.

* `find?_putAt`: what is put at a place is found there.
-/

set_option autoImplicit false
set_option relaxedAutoImplicit false

namespace Responsive

/-- What a name stands for. The age of a file is the time in nanoseconds since its last change, and
unknown if it cannot be read. -/
inductive Disk.Node
  | dir (inner : List (String × Disk.Node))
  | file (content : Content) (age : Option Int)
deriving Repr, Inhabited

/-- The names in a directory, the oldest first. -/
abbrev Disk.Folder := List (String × Disk.Node)

namespace Disk.Folder

/-- The directory with something under a name, in the place of what is there under that name. -/
def set (name : String) (node : Node) : Folder → Folder
  | [] => [(name, node)]
  | (other, old) :: rest =>
    if other = name then (name, node) :: rest else (other, old) :: set name node rest

/-- The directory without a name. -/
def unset (name : String) (folder : Folder) : Folder :=
  folder.filter (·.1 != name)

/-- What is at a place inside the directory. -/
def find? : List String → Folder → Option Node
  | [], folder => some (.dir folder)
  | name :: place, folder =>
    match folder.lookup name with
    | none => none
    | some (.dir inner) => find? place inner
    | some (.file content age) => if place.isEmpty then some (.file content age) else none

/-- Changes the directory that holds the last name of a place, if it is there. -/
def within (change : String → Folder → Folder) : List String → Folder → Folder
  | [], folder => folder
  | [name], folder => change name folder
  | name :: place, folder =>
    match folder.lookup name with
    | some (.dir inner) => set name (.dir (within change place inner)) folder
    | _ => folder

/-- The directory with something at a place inside it. -/
def putAt (node : Node) : List String → Folder → Folder :=
  within (set · node)

/-- The directory with nothing at a place inside it. -/
def dropAt : List String → Folder → Folder :=
  within unset

theorem lookup_set (name : String) (node : Node) (folder : Folder) :
    (folder.set name node).lookup name = some node := by
  induction folder with
  | nil => simp [set]
  | cons entry rest ih =>
    obtain ⟨other, old⟩ := entry
    by_cases h : other = name
    · simp [set, h]
    · have hne : (name == other) = false := by simpa using fun he : name = other ↦ h he.symm
      simp [set, h, List.lookup_cons, hne, ih]

/-- What is put at a place is found there, if the directory that it goes into exists. -/
theorem find?_putAt {node : Node} {place : List String} {folder inner : Folder} {name : String}
    (h : folder.find? place = some (.dir inner)) :
    (folder.putAt node (place ++ [name])).find? (place ++ [name]) = some node := by
  induction place generalizing folder with
  | nil =>
    cases node <;> simp [putAt, within, find?, lookup_set]
  | cons first place ih =>
    rw [find?] at h
    split at h
    · simp at h
    · rename_i next hl
      have hin := ih h
      rw [putAt] at hin ⊢
      have hstep : within (set · node) (first :: (place ++ [name])) folder =
          folder.set first (.dir (within (set · node) (place ++ [name]) next)) := by
        cases place <;> simp [within, hl]
      rw [List.cons_append, hstep]
      simpa [find?, lookup_set] using hin
    · split at h <;> simp at h

end Disk.Folder

/-- The root directory and the working directory. -/
structure Disk where
  root : Disk.Folder := []
  cwd : List String := []
deriving Repr, Inhabited

namespace Disk

/-- Where a path leads. -/
inductive Spot
  /-- Something is there. -/
  | node (place : List String) (node : Node)
  /-- Nothing is there, but the directory it would be in exists. -/
  | vacant (place : List String)
deriving Repr

/-- The disk with something at a place. -/
def put (disk : Disk) (place : List String) (node : Node) : Disk :=
  { disk with root := disk.root.putAt node place }

/-- The disk with nothing at a place. -/
def drop (disk : Disk) (place : List String) : Disk :=
  { disk with root := disk.root.dropAt place }

/-- The number of bytes that a name may have. -/
def maxNameBytes : Nat := 255

/-- The number of bytes that a path may have. -/
def maxPathBytes : Nat := 4095

/-- The directories around a directory, the innermost first: each with its names, and the name under
which the next inner one stands in it. -/
abbrev Trail := List (String × Folder)

/-- The place of a name in the directory that a trail leads to. -/
def Trail.placeOf (trail : Trail) (name : String) : List String :=
  ((trail.map (·.1)).reverse) ++ [name]

/-- Follows names from a directory. -/
def walk (trail : Trail) (here : Folder) : List String → Except IoError Spot
  | [] => .ok (.node (trail.map (·.1)).reverse (.dir here))
  | name :: names =>
    if name = "." then walk trail here names
    else if name = ".." then
      match trail with
      | [] => walk [] here names
      | (_, outer) :: trail => walk trail outer names
    else if maxNameBytes < name.utf8ByteSize then .error .nameTooLong
    else
      match here.lookup name, names with
      | none, [] => .ok (.vacant (trail.placeOf name))
      | none, _ :: _ => .error .notFound
      | some (.dir inner), names => walk ((name, here) :: trail) inner names
      | some node, [] => .ok (.node (trail.placeOf name) node)
      | some (.file ..), _ :: _ => .error .notDirectory

/-- Where a path leads. -/
def locate (disk : Disk) (path : String) : Except IoError Spot :=
  if path.toList.contains '\x00' then .error .nulInPath
  else if maxPathBytes < path.utf8ByteSize then .error .nameTooLong
  else if path.isEmpty then .error .notFound
  else
    let start := if Path.isAbsolute path.toList then [] else disk.cwd
    match walk [] disk.root (start ++ Path.parts path) with
    | .ok (.node place (.file content age)) =>
      if Path.endsInSlash path then .error .notDirectory else .ok (.node place (.file content age))
    | spot => spot

/-- The content of a file. -/
def read (disk : Disk) (path : String) : Except IoError Content := do
  match ← disk.locate path with
  | .node _ (.file content _) => .ok content
  | .node _ (.dir _) => .error .isDirectory
  | .vacant _ => .error .notFound

/-- The age of a file that was changed some full seconds ago. Nothing is looked at in the very
moment of a change. -/
def elapsed (seconds : Int) : Int :=
  seconds * 1000000000 + 1

/-- The age of a file that is changed now. -/
def fresh : Option Int :=
  some (elapsed 0)

/-- What a directory lists under a name. -/
def entry (name : String) : Node → DirEntry
  | .dir _ => ⟨name, false, some 0⟩
  | .file _ age => ⟨name, true, age⟩

/-- The names in a directory, the oldest first. -/
def list (disk : Disk) (path : String) : Except IoError (List DirEntry) := do
  match ← disk.locate path with
  | .node _ (.dir inner) =>
    .ok (inner.map fun pair ↦ entry pair.1 pair.2)
  | .node _ (.file ..) => .error .notDirectory
  | .vacant _ => .error .notFound

/-- Whether a directory is there. -/
def isDir (disk : Disk) (path : String) : Bool :=
  match disk.locate path with
  | .ok (.node _ (.dir _)) => true
  | _ => false

/-- Whether a file is there. -/
def isFile (disk : Disk) (path : String) : Bool :=
  match disk.locate path with
  | .ok (.node _ (.file ..)) => true
  | _ => false

/-- Makes one directory. -/
def makeDir (disk : Disk) (path : String) : Except IoError Disk := do
  match ← disk.locate path with
  | .node .. => .error .exists
  | .vacant place => .ok (disk.put place (.dir []))

/-- The file that a path is opened for writing at, or the place for it; a slash at the end of the
path asks for a directory. -/
def locateForWriting (disk : Disk) (path : String) : Except IoError Spot := do
  match ← disk.locate path with
  | .node _ (.dir _) => .error .isDirectory
  | spot => if Path.endsInSlash path then .error .isDirectory else .ok spot

/-- Makes a new, empty file. -/
def createNew (disk : Disk) (path : String) : Except IoError Disk := do
  match ← disk.locate path with
  | .node .. => .error .exists
  | .vacant place =>
    if Path.endsInSlash path then .error .isDirectory
    else .ok (disk.put place (.file (.text "") fresh))

/-- Gives a file its content, making the file if necessary, as if that had been some full seconds
ago. -/
def writeContent (disk : Disk) (path : String) (content : Content) (seconds : Option Int) :
    Except IoError Disk := do
  match ← disk.locateForWriting path with
  | .node place _ => .ok (disk.put place (.file content (seconds.map elapsed)))
  | .vacant place => .ok (disk.put place (.file content (seconds.map elapsed)))

/-- Opens a file to add to its end, making it if necessary. -/
def openAppend (disk : Disk) (path : String) : Except IoError Disk := do
  match ← disk.locateForWriting path with
  | .node .. => .ok disk
  | .vacant place => .ok (disk.put place (.file (.text "") fresh))

/-- Adds a text to the end of a file. -/
def append (disk : Disk) (path : String) (s : String) : Except IoError Disk := do
  match ← disk.locateForWriting path with
  | .node place (.file (.text old) _) => .ok (disk.put place (.file (.text (old ++ s)) fresh))
  | .node place (.file (.binary old) _) =>
    .ok (disk.put place (.file (.binary (old ++ s.toUTF8.toList)) fresh))
  | _ => .error .notFound

/-- Whether the last name of a path is a dot or a pair of dots, or the path is the root: nothing can
be moved there. -/
def endsInDots (path : String) : Bool :=
  match (Path.parts path).getLast? with
  | none => true
  | some name => name == "." || name == ".."

/-- Moves a file to another path, over a file that is there. -/
def rename (disk : Disk) (old new : String) : Except IoError Disk := do
  match ← disk.locate old with
  | .node source (.file content age) =>
    if new.isEmpty then .error .notFound
    else
      let target ← disk.locate new
      if endsInDots new then .error .busy
      else if Path.endsInSlash new then .error .notDirectory
      else
        match target with
        | .node _ (.dir _) => .error .isDirectory
        | .node place (.file ..) | .vacant place =>
          .ok (((disk.drop source).drop place).put place (.file content age))
  | .node _ (.dir _) => .error .busy
  | .vacant _ => .error .notFound

/-- Removes a file. -/
def remove (disk : Disk) (path : String) : Except IoError Disk := do
  match ← disk.locate path with
  | .node place (.file ..) => .ok (disk.drop place)
  | .node _ (.dir _) => .error .isDirectory
  | .vacant _ => .error .notFound

/-- Runs a change of the disk; a failure leaves it as it is. -/
def change (f : Disk → Except IoError Disk) : StateM Disk (Except IoError Unit) := fun disk ↦
  match f disk with
  | .ok disk => (.ok (), disk)
  | .error e => (.error e, disk)

/-- The disk as a file system. -/
def fileSystem : FileSystem (StateM Disk) where
  read path := return (← get).read path
  list path := return (← get).list path
  isDir path := return (← get).isDir path
  isFile path := return (← get).isFile path
  makeDir path := change (·.makeDir path)
  createNew path := change (·.createNew path)
  write path s := change (·.writeContent path (.text s) (some 0))
  sync _ := return .ok ()
  openAppend path := change (·.openAppend path)
  append path s := change (·.append path s)
  rename old new := change (·.rename old new)
  remove path := change (·.remove path)

end Disk

end Responsive

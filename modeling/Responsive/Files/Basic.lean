import Responsive.Files.Path
import Responsive.Text.Utf8

/-!
# File access

What the library asks of a file system, as a record of operations in a monad. Programs hand in the
real one; `Responsive.Files.Disk` is one in memory.
-/

set_option autoImplicit false
set_option relaxedAutoImplicit false

namespace Responsive

/-- Why a file operation failed. -/
inductive IoError
  | notFound
  | exists
  | notDirectory
  | isDirectory
  | busy
  | nameTooLong
  | nulInPath
  /-- The bytes that were read are not UTF-8. -/
  | notText
  | other (text : String)
deriving DecidableEq, Repr

/-- The text of an error, with the number of the system's error if it has one. -/
def IoError.message : IoError → String
  | notFound => "No such file or directory (os error 2)"
  | .exists => "File exists (os error 17)"
  | notDirectory => "Not a directory (os error 20)"
  | isDirectory => "Is a directory (os error 21)"
  | busy => "Device or resource busy (os error 16)"
  | nameTooLong => "File name too long (os error 36)"
  | nulInPath => "file name contained an unexpected NUL byte"
  | notText => "stream did not contain valid UTF-8"
  | other text => text

/-- What a file holds: a text, or bytes that are not UTF-8. -/
inductive Content
  | text (s : String)
  | binary (bytes : List UInt8)
deriving DecidableEq, Repr, Inhabited

namespace Content

/-- The content with these bytes. -/
def ofBytes (bytes : List UInt8) : Content :=
  match String.fromUTF8? ⟨bytes.toArray⟩ with
  | some s => text s
  | none => binary bytes

/-- The text, if it is one. -/
def text? : Content → Except IoError String
  | text s => .ok s
  | binary _ => .error .notText

/-- The text, with replacement characters in the place of bytes that are none. -/
def lossyText : Content → String
  | text s => s
  | binary bytes => .ofList (Text.decodeLossy bytes)

end Content

/-- A name in a directory. The age is the time in nanoseconds since the last change, negative if
that lies in the future, and unknown if it cannot be read. -/
structure DirEntry where
  name : String
  isFile : Bool
  age : Option Int
deriving DecidableEq, Repr

/-- The operations of a file system. -/
structure FileSystem (m : Type → Type) where
  /-- The whole content of a file. -/
  read : String → m (Except IoError Content)
  /-- The names in a directory, the oldest first. -/
  list : String → m (Except IoError (List DirEntry))
  /-- Whether a path leads to a directory. -/
  isDir : String → m Bool
  /-- Whether a path leads to a file. -/
  isFile : String → m Bool
  /-- Makes one directory. -/
  makeDir : String → m (Except IoError Unit)
  /-- Makes a new, empty file. -/
  createNew : String → m (Except IoError Unit)
  /-- Gives a file its content, making the file if necessary. -/
  write : String → String → m (Except IoError Unit)
  /-- Sees to it that the content of a file has reached the disk. -/
  sync : String → m (Except IoError Unit)
  /-- Opens a file to add to its end, making it if necessary. -/
  openAppend : String → m (Except IoError Unit)
  /-- Adds a text to the end of a file. -/
  append : String → String → m (Except IoError Unit)
  /-- Moves a file to another path, over a file that is there. -/
  rename : String → String → m (Except IoError Unit)
  /-- Removes a file. -/
  remove : String → m (Except IoError Unit)

namespace FileSystem

variable {m : Type → Type} [Monad m]

/-- The text of a file. -/
def readText (fs : FileSystem m) (path : String) : m (Except IoError String) := do
  return (← fs.read path) >>= Content.text?

/-- Makes a directory after the ones it stands in; `fuel` bounds the number of those. -/
def makeDirsUpTo (fs : FileSystem m) : Nat → String → m (Except IoError Unit)
  | 0, _ => return .error (.other "failed to create whole tree")
  | fuel + 1, path => do
    if path.isEmpty then return .ok ()
    match ← fs.makeDir path with
    | .ok () => return .ok ()
    | .error .notFound =>
      match Path.parent? path with
      | none => return .error (.other "failed to create whole tree")
      | some parent =>
        match ← makeDirsUpTo fs fuel parent with
        | .error e => return .error e
        | .ok () =>
          match ← fs.makeDir path with
          | .ok () => return .ok ()
          | .error e => if ← fs.isDir path then return .ok () else return .error e
    | .error e => if ← fs.isDir path then return .ok () else return .error e

/-- Makes a directory and the ones it stands in, as far as they are missing. -/
def makeDirs (fs : FileSystem m) (path : String) : m (Except IoError Unit) :=
  makeDirsUpTo fs (path.length + 1) path

end FileSystem

end Responsive

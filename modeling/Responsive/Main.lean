import Responsive.CommandLine.Program
import Responsive.Logging.Calendar

/-!
# The program on a real system

The file system, the environment, the clock and the standard streams for a run of the program.
Directories are not listed here, so files that other runs have left behind stay where they are.
-/

set_option autoImplicit false
set_option relaxedAutoImplicit false

namespace Responsive.Main

open CommandLine

/-- The error of a system call. -/
def ioError : IO.Error → IoError
  | .noFileOrDirectory .. => .notFound
  | .alreadyExists .. => .exists
  | .inappropriateType _ code _ => if code == 21 then .isDirectory else .notDirectory
  | e => .other (toString e)

/-- Runs a system call and keeps its error as a value. -/
def attempt {α : Type} (op : IO α) : IO (Except IoError α) := do
  try return .ok (← op) catch e => return .error (ioError e)

/-- Whether a directory is there: the directory that a dot in it names cannot be made anew. -/
def isDirectory (path : String) : IO Bool := do
  match ← attempt (IO.FS.createDir (path ++ "/.")) with
  | .error .exists => return true
  | _ => return false

/-- Opens a file, and closes it again. -/
def touch (path : String) (mode : IO.FS.Mode) : IO (Except IoError Unit) :=
  attempt (discard (IO.FS.Handle.mk path mode))

/-- The file system. -/
def fileSystem : FileSystem IO where
  read path := attempt (return .ofBytes (← IO.FS.readBinFile path).toList)
  list _ := return .error (.other "directories are not listed")
  isDir := isDirectory
  isFile path := do
    if ← isDirectory path then return false
    return (← touch path .read).isOk
  makeDir path := attempt (IO.FS.createDir path)
  createNew path := touch path .writeNew
  write path text := attempt (IO.FS.writeFile path text)
  sync _ := return .ok ()
  openAppend path := touch path .append
  append path text := attempt do (← IO.FS.Handle.mk path .append).putStr text
  rename old new := attempt (IO.FS.rename old new)
  remove path := attempt (IO.FS.removeFile path)

/-- The words of a text. -/
def words (s : String) : List String :=
  ((s.map fun c ↦ if c.isWhitespace then ' ' else c).splitOn " ").filter (!·.isEmpty)

/-- The text of a file about this system, empty if there is none. -/
def systemText (path : String) : IO String := do
  try IO.FS.readFile path catch _ => return ""

/-- The number of this process. -/
def processName : IO String :=
  return ((words (← systemText "/proc/self/stat")).head?).getD "0"

/-- The variables of the environment. -/
def environment : IO (List (String × String)) := do
  let entries := (← systemText "/proc/self/environ").splitOn "\x00"
  return entries.filterMap fun entry ↦
    match entry.splitOn "=" with
    | name :: first :: rest => some (name, "=".intercalate (first :: rest))
    | _ => none

/-- The seconds since the beginning of 1970: those at the start of the system and those since. -/
def secondsNow : IO Nat := do
  let started := ((← systemText "/proc/stat").splitOn "\n").filterMap fun line ↦
    match words line with
    | ["btime", n] => n.toNat?
    | _ => none
  let running := ((words (← systemText "/proc/uptime")).head?).getD "0"
  return started.headD 0 + (running.takeWhile (· != '.')).toNat?.getD 0

/-- The date and time. -/
def clock : IO Clock := do
  let seconds ← secondsNow
  return ⟨Logging.Calendar.moment seconds, Logging.Calendar.timestamp seconds 0⟩

/-- Reads a stream to its end. -/
partial def readAll (stream : IO.FS.Stream) (done : ByteArray) : IO ByteArray := do
  let chunk ← stream.read 65536
  if chunk.isEmpty then return done else readAll stream (done ++ chunk)

/-- The standard input. -/
def standardInput : IO (Except IoError Content) :=
  attempt do return .ofBytes (← readAll (← IO.getStdin) .empty).toList

end Responsive.Main

open Responsive.Main in
/-- Runs the program on the arguments of this process. -/
def main (args : List String) : IO UInt32 := do
  let surroundings : Responsive.CommandLine.Surroundings IO :=
    { fs := fileSystem, process := ← processName, input := standardInput }
  let outcome ←
    Responsive.CommandLine.runProgram surroundings (← environment) (← clock) args
  outcome.complaints.forM fun line ↦ IO.eprintln line
  IO.print outcome.out
  return outcome.code.toUInt32

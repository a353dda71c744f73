import Responsive.Files.Disk

/-!
# A disk whose operations may fail

A disk in memory with a plan of faults: the plan says of every change to come whether it happens or
fails, and with which error. A write that fails may have written something by then. Looking at the
disk and removing files always works.
-/

set_option autoImplicit false
set_option relaxedAutoImplicit false

namespace Responsive

/-- How a change of a disk fails. -/
structure Fault where
  error : IoError
  /-- What a failed write leaves in its file. -/
  written : Content := .text ""
deriving Repr

/-- A disk and what the next changes of it do; all changes behind the end of the plan happen. -/
structure FlakyDisk where
  disk : Disk := {}
  plan : List (Option Fault) := []
deriving Repr

namespace FlakyDisk

/-- Runs a change of the disk, unless the plan has a fault for it; `spoil` is what a fault does to
the disk. -/
def changeOr (spoil : Fault → Disk → Disk) (f : Disk → Except IoError Disk) :
    StateM FlakyDisk (Except IoError Unit) := fun s ↦
  match s.plan.head?.join with
  | some fault => (.error fault.error, ⟨spoil fault s.disk, s.plan.tail⟩)
  | none =>
    match f s.disk with
    | .ok disk => (.ok (), ⟨disk, s.plan.tail⟩)
    | .error e => (.error e, ⟨s.disk, s.plan.tail⟩)

/-- Runs a change of the disk, or leaves the disk as it is if the plan has a fault for it. -/
def change : (Disk → Except IoError Disk) → StateM FlakyDisk (Except IoError Unit) :=
  changeOr fun _ disk ↦ disk

/-- What a fault leaves of a write. -/
def spoilWrite (path : String) (fault : Fault) (disk : Disk) : Disk :=
  match disk.writeContent path fault.written (some 0) with
  | .ok disk => disk
  | .error _ => disk

/-- The disk as a file system. -/
def fileSystem : FileSystem (StateM FlakyDisk) where
  read path := return (← get).disk.read path
  list path := return (← get).disk.list path
  isDir path := return (← get).disk.isDir path
  isFile path := return (← get).disk.isFile path
  makeDir path := change (·.makeDir path)
  createNew path := change (·.createNew path)
  write path s := changeOr (spoilWrite path) (·.writeContent path (.text s) (some 0))
  sync _ := change .ok
  openAppend path := change (·.openAppend path)
  append path s := change (·.append path s)
  rename old new := change (·.rename old new)
  remove path s :=
    match s.disk.remove path with
    | .ok disk => (.ok (), { s with disk })
    | .error e => (.error e, s)

end FlakyDisk

end Responsive

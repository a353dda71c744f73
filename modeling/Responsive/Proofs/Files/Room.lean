import Mathlib.Data.List.Infix
import Responsive.Proofs.Files.OnDisk

/-!
# When changes of a disk succeed

A file can be made at a path, written and moved there if the path leads to a place where no
directory stands. On a disk whose plan has no faults every change that can be made is made, and then
the plan has no faults either.

* `Disk.Room`: a path where there is room for a file.
* `Disk.exists_createNew_eq_ok`, `Disk.exists_rename_eq_ok` and so on: changes that can be made.
* `FlakyDisk.Faultless`: a plan without faults.
-/

set_option autoImplicit false
set_option relaxedAutoImplicit false

namespace Responsive

variable {σ : Type}

namespace Disk

variable {disk disk' : Disk} {path : String} {place : List String}

/-- There is room for a file at a path: it leads to a place where no directory stands, and does not
ask for one. -/
structure Room (disk : Disk) (path : String) (place : List String) : Prop where
  target : disk.target? path = .ok place
  old : disk.thing? place ≠ some .dir
  slash : Path.endsInSlash path = false

namespace Room

/-- There is still room if all directories stay and none is made there. -/
theorem of_keepsDirs (h : disk.Room path place) (hdirs : disk.KeepsDirs disk')
    (hold : disk'.thing? place ≠ some .dir) : disk'.Room path place :=
  ⟨hdirs.target? h.target, hold, h.slash⟩

theorem of_sets (h : disk.Room path place) {other : List String} {thing : Option Thing}
    (hsets : Sets disk disk' other thing) (hthing : thing ≠ some .dir) : disk'.Room path place :=
  h.of_keepsDirs hsets.keepsDirs (hsets.thing?_ne_dir hthing h.old)

/-- Where there is room for a file, nothing stands, or there is a file. -/
theorem locate_cases (h : disk.Room path place) :
    disk.locate path = .ok (.vacant place) ∨
      ∃ content age, disk.locate path = .ok (.node place (.file content age)) := by
  cases hthing : disk.thing? place with
  | none => exact .inl (locate_eq_vacant_iff.mpr ⟨h.target, hthing⟩)
  | some thing =>
    cases thing with
    | dir => exact absurd hthing h.old
    | file content age =>
      exact .inr ⟨content, age, locate_eq_file_iff.mpr ⟨h.target, hthing, h.slash⟩⟩

/-- The empty path leads nowhere. -/
theorem isEmpty_eq_false (h : disk.Room path place) : path.isEmpty = false := by
  refine Bool.eq_false_iff.mpr fun hempty ↦ ?_
  have htarget := h.target
  rw [String.isEmpty_iff.mp hempty] at htarget
  contradiction

end Room

/-! ### Changes that can be made -/

theorem exists_createNew_eq_ok (h : disk.Room path place) (hfree : disk.thing? place = none) :
    ∃ disk', disk.createNew path = .ok disk' := by
  rw [createNew, locate_eq_vacant_iff.mpr ⟨h.target, hfree⟩]
  change ∃ disk', (if Path.endsInSlash path then _ else _) = Except.ok disk'
  rw [h.slash]
  exact ⟨_, rfl⟩

theorem exists_writeContent_eq_ok (h : disk.Room path place) (content : Content)
    (seconds : Option Int) : ∃ disk', disk.writeContent path content seconds = .ok disk' := by
  rw [writeContent, locateForWriting]
  rcases h.locate_cases with hvacant | ⟨old, age, hfile⟩
  · rw [hvacant, h.slash]
    exact ⟨_, rfl⟩
  · rw [hfile, h.slash]
    exact ⟨_, rfl⟩

/-- A file can be moved to a path where there is room for it and that ends in a name. -/
theorem exists_rename_eq_ok {old : String} {source : List String} {content : Content}
    {age : Option Int} (hold : disk.Room old source)
    (hfile : disk.thing? source = some (.file content age)) (hnew : disk.Room path place)
    (hdots : endsInDots path = false) : ∃ disk', disk.rename old path = .ok disk' := by
  rw [rename, locate_eq_file_iff.mpr ⟨hold.target, hfile, hold.slash⟩]
  change ∃ disk', (if path.isEmpty then _ else _) = Except.ok disk'
  rw [hnew.isEmpty_eq_false]
  rcases hnew.locate_cases with hvacant | ⟨replaced, age', hreplaced⟩
  · rw [hvacant, hdots, hnew.slash]
    exact ⟨_, rfl⟩
  · rw [hreplaced, hdots, hnew.slash]
    exact ⟨_, rfl⟩

/-! ### Directories -/

theorem isDir_iff :
    disk.isDir path = true ↔
      ∃ place, disk.target? path = .ok place ∧ disk.thing? place = some .dir := by
  constructor
  · intro h
    unfold isDir at h
    split at h
    next place inner hlocate =>
      obtain ⟨htarget, hinner⟩ := locate_eq_dir hlocate
      exact ⟨place, htarget, Folder.thing?_eq_dir_iff.mpr ⟨inner, hinner⟩⟩
    next => contradiction
  · rintro ⟨place, htarget, hdir⟩
    obtain ⟨inner, hinner⟩ := Folder.thing?_eq_dir_iff.mp hdir
    have hlocate : disk.locate path = .ok (.node place (.dir inner)) := by
      rw [locate_eq, htarget]
      change settle path (disk.root.spot place) = _
      rw [Folder.spot, hinner]
      rfl
    rw [isDir, hlocate]

theorem KeepsDirs.isDir (h : KeepsDirs disk disk') (hdir : disk.isDir path = true) :
    disk'.isDir path = true := by
  obtain ⟨place, htarget, hplace⟩ := isDir_iff.mp hdir
  exact isDir_iff.mpr ⟨place, h.target? htarget, h.dir place hplace⟩

theorem isDir_of_makeDir (h : disk.makeDir path = .ok disk') : disk'.isDir path = true := by
  obtain ⟨place, htarget, -, hsets⟩ := makeDir_eq_ok h
  exact isDir_iff.mpr ⟨place, hsets.keepsDirs.target? htarget, hsets.thing?_self⟩

/-- A directory that is there is not made again. -/
theorem makeDir_eq_exists (h : disk.isDir path = true) : disk.makeDir path = .error .exists := by
  unfold isDir at h
  split at h
  next place inner hlocate =>
    rw [makeDir, hlocate]
    rfl
  next => contradiction

end Disk

namespace FileSystem.OnDisk

variable {fs : FileSystem (StateM σ)} {view : σ → Disk} {path : String} {s s' : σ}

/-- Where making a directory failed, one is there all the same. -/
theorem isDir_of_check (h : fs.OnDisk view) {e : IoError}
    (hrun : (do if ← fs.isDir path then return .ok () else return .error e :
      StateM σ (Except IoError Unit)).run s = (.ok (), s')) : (view s').isDir path = true := by
  rw [StateT.run_bind, h.isDir] at hrun
  cases hdir : (view s).isDir path with
  | true =>
    rw [hdir] at hrun
    obtain ⟨-, rfl⟩ := Prod.mk.inj hrun
    exact hdir
  | false =>
    rw [hdir] at hrun
    exact absurd (congrArg Prod.fst hrun) nofun

/-- A directory that is made is there. -/
theorem isDir_of_run_makeDirs (h : fs.OnDisk view) (hpath : path.isEmpty = false)
    (hrun : (fs.makeDirs path).run s = (.ok (), s')) : (view s').isDir path = true := by
  rw [makeDirs, makeDirsUpTo, hpath, if_neg Bool.false_ne_true, StateT.run_bind] at hrun
  have hmake {s s' : σ} (hmade : (fs.makeDir path).run s = (.ok (), s')) :
      (view s').isDir path = true :=
    Disk.isDir_of_makeDir ((h.makeDir path).of_ok hmade)
  have hfailed {e : IoError} {s s' : σ} :
      (Except.error e, s) ≠ ((.ok (), s') : Except IoError Unit × σ) := by
    simp
  rcases hmade : (fs.makeDir path).run s with ⟨e | _, made⟩
  · rw [hmade] at hrun
    cases e with
    | notFound =>
      -- The directory around it is made first, and then it is tried again.
      cases hparent : Path.parent? path with
      | none =>
        rw [hparent] at hrun
        exact absurd hrun hfailed
      | some parent =>
        rw [hparent] at hrun
        change (makeDirsUpTo fs path.length parent >>= _).run made = _ at hrun
        rw [StateT.run_bind] at hrun
        rcases haround : (makeDirsUpTo fs path.length parent).run made with ⟨e | _, around⟩
        · rw [haround] at hrun
          exact absurd hrun hfailed
        · rw [haround] at hrun
          change (fs.makeDir path >>= _).run around = _ at hrun
          rw [StateT.run_bind] at hrun
          rcases hagain : (fs.makeDir path).run around with ⟨e | _, again⟩
          · rw [hagain] at hrun
            exact h.isDir_of_check hrun
          · rw [hagain] at hrun
            obtain ⟨-, rfl⟩ := Prod.mk.inj hrun
            exact hmake hagain
    | _ => exact h.isDir_of_check hrun
  · rw [hmade] at hrun
    obtain ⟨-, rfl⟩ := Prod.mk.inj hrun
    exact hmake hmade

end FileSystem.OnDisk

/-! ### Plans without faults -/

namespace FlakyDisk

/-- The second plan is what is left of the first one. -/
def Spends (plan plan' : List (Option Fault)) : Prop :=
  plan' <:+ plan

instance : IsPreorder (List (Option Fault)) Spends where
  refl := List.suffix_refl
  trans _ _ _ h h' := h'.trans h

/-- The plan has no faults. -/
def Faultless (files : FlakyDisk) : Prop :=
  ∀ fault ∈ files.plan, fault = none

/-- What is left of a plan without faults has none. -/
theorem Faultless.of_spends {files files' : FlakyDisk} (h : files.Faultless)
    (hplan : Spends files.plan files'.plan) : files'.Faultless :=
  fun fault hfault ↦ h fault (hplan.subset hfault)

section Change

variable (spoil : Fault → Disk → Disk) (f : Disk → Except IoError Disk) {files : FlakyDisk}

theorem spends_changeOr : FileSystem.OnDisk.Keeps FlakyDisk.plan Spends (changeOr spoil f) := by
  intro files
  change (changeOr spoil f files).2.plan <:+ files.plan
  unfold changeOr
  split
  · exact List.tail_suffix _
  · split <;> exact List.tail_suffix _

theorem Faultless.head?_plan (h : files.Faultless) : files.plan.head?.join = none := by
  cases hplan : files.plan with
  | nil => rfl
  | cons fault rest => exact h fault (hplan ▸ List.mem_cons_self)

/-- Without faults a change that can be made is made. -/
theorem Faultless.exists_run_changeOr (h : files.Faultless) {disk : Disk}
    (hf : f files.disk = .ok disk) :
    ∃ files', (changeOr spoil f).run files = (.ok (), files') ∧ files'.Faultless := by
  refine ⟨⟨disk, files.plan.tail⟩, ?_, h.of_spends (List.tail_suffix _)⟩
  change changeOr spoil f files = _
  simp only [changeOr, h.head?_plan, hf]

/-- Without faults the error of a change that cannot be made is that of the disk. -/
theorem Faultless.run_changeOr_of_error (h : files.Faultless) {e : IoError}
    (hf : f files.disk = .error e) :
    (changeOr spoil f).run files = (.error e, ⟨files.disk, files.plan.tail⟩) := by
  change changeOr spoil f files = _
  simp only [changeOr, h.head?_plan, hf]

end Change

theorem spends_makeDirs (path : String) :
    FileSystem.OnDisk.Keeps FlakyDisk.plan Spends (fileSystem.makeDirs path) :=
  .makeDirs (fun path ↦ spends_changeOr _ (·.makeDir path)) (fun _ _ ↦ refl_of Spends _) path

/-- Without faults a directory that is there is as good as made. -/
theorem Faultless.run_makeDirs {files : FlakyDisk} (h : files.Faultless) {path : String}
    (hpath : path.isEmpty = false) (hdir : files.disk.isDir path = true) :
    (fileSystem.makeDirs path).run files = (.ok (), ⟨files.disk, files.plan.tail⟩) := by
  have hmake : (fileSystem.makeDir path).run files =
      (.error .exists, ⟨files.disk, files.plan.tail⟩) :=
    h.run_changeOr_of_error (fun _ disk ↦ disk) (·.makeDir path) (Disk.makeDir_eq_exists hdir)
  rw [FileSystem.makeDirs, FileSystem.makeDirsUpTo, hpath, if_neg Bool.false_ne_true,
    StateT.run_bind, hmake]
  change (fileSystem.isDir path >>= _).run _ = _
  rw [StateT.run_bind, onDisk.isDir, hdir]
  rfl

end FlakyDisk

end Responsive

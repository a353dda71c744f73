import Responsive.Proofs.Settings.Document
import Responsive.Proofs.Settings.Opening

/-!
# When a document can be written

All steps of an update succeed on a disk without faults if the directory of the document is there,
and there is room in it for the document and for the temporary file of the process. An update takes
none of that away, and neither does opening the document. So a process that can write the document
once, with any text, can write every text, also after other processes have written it.

* `Ready`: a disk on which a document can be written.
* `Ready.exists_runAll`: then every update succeeds.
* `Writable.exists_runAll`, `Writable.next`: what one update says of later ones.
-/

set_option autoImplicit false
set_option relaxedAutoImplicit false

namespace Responsive

open FileStep (runAll)

variable {σ : Type}

/-! ### Steps without faults -/

namespace FlakyDisk

theorem spends_run (step : FileStep) :
    FileSystem.OnDisk.Keeps FlakyDisk.plan Spends (step.run fileSystem) := by
  cases step with
  | makeDirs dir => exact spends_makeDirs dir
  | createNew path => exact spends_changeOr _ _
  | write path text => exact spends_changeOr _ _
  | sync path => exact spends_changeOr _ _
  | rename old new => exact spends_changeOr _ _

theorem spends_runAll (steps : List FileStep) :
    FileSystem.OnDisk.Keeps FlakyDisk.plan Spends (runAll fileSystem steps) := by
  induction steps with
  | nil => exact .pure _
  | cons step steps ih =>
    intro files
    have hspends := spends_run step files
    rcases FileStep.run_runAll_cons_cases fileSystem step steps files with
      ⟨mid, hstep, hrun⟩ | ⟨cause, mid, hstep, hrun⟩
    · rw [hstep] at hspends
      rw [hrun]
      exact trans_of Spends hspends (ih mid)
    · rw [hstep] at hspends
      rwa [hrun]

namespace Faultless

variable {files : FlakyDisk} {disk : Disk} {path temp text : String}

theorem exists_run_createNew (h : files.Faultless)
    (hcreate : files.disk.createNew temp = .ok disk) :
    ∃ files', ((FileStep.createNew temp).run fileSystem).run files = (.ok (), files') ∧
      files'.Faultless :=
  h.exists_run_changeOr (fun _ disk ↦ disk) (·.createNew temp) hcreate

theorem exists_run_write (h : files.Faultless)
    (hwrite : files.disk.writeContent temp (.text text) (some 0) = .ok disk) :
    ∃ files', ((FileStep.write temp text).run fileSystem).run files = (.ok (), files') ∧
      files'.Faultless :=
  h.exists_run_changeOr (spoilWrite temp) (·.writeContent temp (.text text) (some 0)) hwrite

theorem exists_run_sync (h : files.Faultless) (path : String) :
    ∃ files', ((FileStep.sync path).run fileSystem).run files = (.ok (), files') ∧
      files'.Faultless :=
  h.exists_run_changeOr (fun _ disk ↦ disk) .ok rfl

theorem exists_run_rename (h : files.Faultless) (hrename : files.disk.rename temp path = .ok disk) :
    ∃ files', ((FileStep.rename temp path).run fileSystem).run files = (.ok (), files') ∧
      files'.Faultless :=
  h.exists_run_changeOr (fun _ disk ↦ disk) (·.rename temp path) hrename

end Faultless

end FlakyDisk

namespace Store

/-! ### Disks on which a document can be written -/

/-- A disk on which a document can be written by way of a temporary file. -/
structure Ready (path temp : String) (disk : Disk) : Prop where
  parent : ∀ parent ∈ Path.parent? path, parent.isEmpty = false → disk.isDir parent = true
  temp : ∃ source, disk.Room temp source ∧ disk.thing? source = none
  document : ∃ place, disk.Room path place
  dots : Disk.endsInDots path = false

section Disk

variable {fs : FileSystem (StateM σ)} {view : σ → Disk} {path temp text : String} {s s' : σ}
  {before after : Disk}

/-- Removing abandoned files makes only more room. -/
theorem Ready.of_swept (h : Ready path temp before) (hswept : Swept path before after) :
    Ready path temp after := by
  have hroom {other : String} {place : List String} (hroom : before.Room other place) :
      after.Room other place := by
    refine hroom.of_keepsDirs hswept.dirs ?_
    rcases hswept.things place with hsame | ⟨hnone, -⟩
    · rw [hsame]
      exact hroom.old
    · rw [hnone]
      exact nofun
  obtain ⟨source, hsource, hfree⟩ := h.temp
  obtain ⟨place, hplace⟩ := h.document
  refine ⟨fun parent hparent hne ↦ hswept.dirs.isDir (h.parent parent hparent hne),
    ⟨source, hroom hsource, ?_⟩, ⟨place, hroom hplace⟩, h.dots⟩
  rcases hswept.things source with hsame | ⟨hnone, -⟩
  · rw [hsame, hfree]
  · exact hnone

/-- A document that is replaced can be replaced again. -/
theorem Ready.of_sets {process : String} {n : Nat} (hprocess : '/' ∉ process.toList)
    (h : Ready path (tempPath path process n) before) {place : List String} {content : Content}
    {age : Option Int} (hplace : before.target? path = .ok place)
    (hsets : Disk.Sets before after place (some (.file content age))) :
    Ready path (tempPath path process n) after := by
  obtain ⟨source, hsource, hfree⟩ := h.temp
  obtain ⟨other, hother⟩ := h.document
  refine ⟨fun parent hparent hne ↦ hsets.keepsDirs.isDir (h.parent parent hparent hne),
    ⟨source, hsource.of_sets hsets nofun, ?_⟩, ⟨other, hother.of_sets hsets nofun⟩, h.dots⟩
  rw [hsets.look, Function.update_of_ne (target?_tempPath_ne hprocess hplace hsource.target), hfree]

/-- The directory of a document is there once it has been made. -/
theorem isDir_of_parentSteps (hfs : fs.OnDisk view)
    (h : (runAll fs (parentSteps path)).run s = (.ok (), s')) :
    ∀ parent ∈ Path.parent? path, parent.isEmpty = false → (view s').isDir parent = true := by
  intro parent hparent hne
  have hsteps : parentSteps path = [.makeDirs parent] := by
    rw [parentSteps, Option.mem_def.mp hparent]
    exact if_neg (Bool.eq_false_iff.mp hne)
  rw [hsteps] at h
  obtain ⟨made, hmade, hrest⟩ := FileStep.exists_of_run_runAll_cons h
  obtain ⟨-, rfl⟩ := Prod.mk.inj hrest
  exact hfs.isDir_of_run_makeDirs hne hmade

/-- If an update succeeds, the document could be written as soon as its directory was there. -/
theorem ready_of_updateSteps (hfs : fs.OnDisk view)
    (h : (runAll fs (updateSteps path temp text)).run s = (.ok (), s')) :
    ∃ mid place, (runAll fs (parentSteps path)).run s = (.ok (), mid) ∧
      Ready path temp (view mid) ∧ (view mid).target? path = .ok place ∧
      Disk.Sets (view mid) (view s') place (some (.file (.text text) Disk.fresh)) := by
  obtain ⟨mid, hmade, hreplaced⟩ := FileStep.exists_of_run_runAll_append h
  obtain ⟨source, place, hsource, hfree, hplace, hdots, hsets⟩ := sets_of_replaceSteps hfs hreplaced
  exact ⟨mid, place, hmade,
    ⟨isDir_of_parentSteps hfs hmade, ⟨source, hsource, hfree⟩, ⟨place, hplace⟩, hdots⟩,
    hplace.target, hsets⟩

end Disk

/-! ### Without faults -/

section Faultless

open FlakyDisk

variable {path temp : String} {files files' : FlakyDisk}

/-- Removing files is not in the plan. -/
theorem spends_purge (path : String) :
    FileSystem.OnDisk.Keeps FlakyDisk.plan Spends (purge fileSystem path) := by
  have hremove (file : String) : FileSystem.OnDisk.Keeps FlakyDisk.plan Spends
      (fileSystem.remove file) := by
    intro files
    simp only [StateT.run, fileSystem]
    split <;> exact refl_of Spends _
  have hremoved (dir : String) (entries : List DirEntry) :
      FileSystem.OnDisk.Keeps FlakyDisk.plan Spends (removeAll fileSystem dir entries) := by
    induction entries with
    | nil => exact .pure _
    | cons entry entries ih => exact .bind (hremove (Path.join dir entry.name)) fun _ ↦ ih
  intro files
  rcases run_purge_cases onDisk path files with hsame | ⟨document, entries, -, -, hrun⟩
  · rw [hsame]
    exact refl_of Spends _
  · rw [hrun]
    exact hremoved _ _ files

/-- Opening a document and taking steps after that brings no faults. -/
theorem faultless_of_runAll {steps : List FileStep}
    {answer : Except (FileStep × IoError) Unit} (h : files.Faultless)
    (hrun : (runAll fileSystem steps).run ((purge fileSystem path).run files).2 =
      (answer, files')) : files'.Faultless := by
  have hspends := trans_of Spends (spends_purge path files) (spends_runAll steps _)
  rw [hrun] at hspends
  exact h.of_spends hspends

namespace Ready

theorem exists_run_parentSteps (h : Ready path temp files.disk) (hfaultless : files.Faultless) :
    ∃ files', (runAll fileSystem (parentSteps path)).run files = (.ok (), files') ∧
      files'.disk = files.disk := by
  unfold parentSteps
  cases hparent : Path.parent? path with
  | none => exact ⟨files, rfl, rfl⟩
  | some parent =>
    dsimp only
    split
    · exact ⟨files, rfl, rfl⟩
    next hne =>
      have hempty := Bool.eq_false_iff.mpr hne
      refine ⟨⟨files.disk, files.plan.tail⟩, FileStep.run_runAll_cons_of_ok ?_, rfl⟩
      exact hfaultless.run_makeDirs hempty (h.parent parent hparent hempty)

theorem exists_run_replaceSteps (h : Ready path temp files.disk) (hfaultless : files.Faultless)
    (text : String) :
    ∃ files', (runAll fileSystem (replaceSteps path temp text)).run files = (.ok (), files') := by
  obtain ⟨source, hsource, hfree⟩ := h.temp
  obtain ⟨place, hplace⟩ := h.document
  -- Every step leaves what the next one needs.
  obtain ⟨_, hcreate⟩ := Disk.exists_createNew_eq_ok hsource hfree
  obtain ⟨created, hcreated, hfaultless⟩ := hfaultless.exists_run_createNew hcreate
  obtain ⟨source, hdraft⟩ := Drafted.of_createNew onDisk hcreated
  obtain ⟨_, hwrite⟩ := Disk.exists_writeContent_eq_ok hdraft.room (.text text) (some 0)
  obtain ⟨written, hwritten, hfaultless⟩ := hfaultless.exists_run_write hwrite
  have hdraft := hdraft.of_writeContent (onDisk.of_write_ok hwritten)
  obtain ⟨synced, hsynced, hfaultless⟩ := hfaultless.exists_run_sync temp
  have hdraft := hdraft.of_sync onDisk hsynced
  obtain ⟨_, hrename⟩ := Disk.exists_rename_eq_ok hdraft.room hdraft.sets.thing?_self
    (hplace.of_sets hdraft.sets nofun) h.dots
  obtain ⟨moved, hmoved, -⟩ := hfaultless.exists_run_rename hrename
  refine ⟨moved, ?_⟩
  rw [replaceSteps, FileStep.run_runAll_cons_of_ok hcreated,
    FileStep.run_runAll_cons_of_ok hwritten, FileStep.run_runAll_cons_of_ok hsynced,
    FileStep.run_runAll_cons_of_ok hmoved]
  rfl

/-- On a disk without faults on which a document can be written every update of it succeeds. -/
theorem exists_runAll (h : Ready path temp files.disk) (hfaultless : files.Faultless)
    (text : String) :
    ∃ files', (runAll fileSystem (updateSteps path temp text)).run files = (.ok (), files') := by
  obtain ⟨made, hmade, hdisk⟩ := h.exists_run_parentSteps hfaultless
  have hspends := spends_runAll (parentSteps path) files
  rw [hmade] at hspends
  rw [← hdisk] at h
  rw [updateSteps, FileStep.run_runAll_append_of_ok hmade]
  exact h.exists_run_replaceSteps (hfaultless.of_spends hspends) text

end Ready

/-- Once abandoned files are gone, a process can write a document: with some text all steps of an
update succeed. -/
def Writable (path process : String) (files : FlakyDisk) : Prop :=
  ∃ text, ((runAll fileSystem (updateSteps path (tempPath path process 1) text)).run
    ((purge fileSystem path).run files).2).1 = .ok ()

namespace Writable

variable {process process' text : String}

/-- What a process can write with one text it can write with any. -/
theorem exists_runAll (h : Writable path process files) (hfaultless : files.Faultless)
    (text : String) :
    ∃ files', (runAll fileSystem (updateSteps path (tempPath path process 1) text)).run
      ((purge fileSystem path).run files).2 = (.ok (), files') := by
  obtain ⟨other, hother⟩ := h
  obtain ⟨mid, place, hmade, hready, -, -⟩ := ready_of_updateSteps onDisk (Prod.ext hother rfl)
  rw [updateSteps, FileStep.run_runAll_append_of_ok hmade]
  exact hready.exists_run_replaceSteps (faultless_of_runAll hfaultless hmade) text

/-- What a process can write it can still write after another process has written it. -/
theorem next (hprocess : '/' ∉ process.toList) (h : Writable path process files)
    (hfaultless : files.Faultless)
    (hrun : (runAll fileSystem (updateSteps path (tempPath path process' 1) text)).run
      ((purge fileSystem path).run files).2 = (.ok (), files')) :
    Writable path process files' := by
  obtain ⟨other, hother⟩ := h
  obtain ⟨mid, place, hmade, hready, -, -⟩ := ready_of_updateSteps onDisk (Prod.ext hother rfl)
  obtain ⟨mid', place, hmade', -, hplace, hsets⟩ := ready_of_updateSteps onDisk hrun
  -- Both processes make the same directory.
  obtain ⟨-, rfl⟩ := Prod.mk.inj (hmade.symm.trans hmade')
  have hnext := (hready.of_sets hprocess hplace hsets).of_swept (swept_purge onDisk path files')
  have hfaultless' := (faultless_of_runAll hfaultless hrun).of_spends (spends_purge path files')
  obtain ⟨files'', hsteps⟩ := hnext.exists_runAll hfaultless' ""
  exact ⟨"", congrArg Prod.fst hsteps⟩

end Writable

end Faultless

end Store

end Responsive

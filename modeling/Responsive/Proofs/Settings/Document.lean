import Responsive.Proofs.Files.Room
import Responsive.Proofs.Settings.Steps

/-!
# What an update does to the files

The steps of an update of a document either put the whole new text where the document stands, and
change no other file, or one of them fails and the document keeps its content. What a failure may
leave behind is directories and, if writing or syncing failed, the temporary file.

* `Saved`, `Spared`: the files after the steps, and after one that failed.
* `Drafted`: the files while there is a temporary file.
* `saved_of_runAll`, `spared_of_runAll`: what the steps do on a disk.
-/

set_option autoImplicit false
set_option relaxedAutoImplicit false

namespace Responsive.Store

variable {σ α : Type}

/-! ### Names of temporary files -/

/-- The name of a temporary file of a document. -/
def tempName (document process : String) (n : Nat) : String :=
  tempStem ((Path.fileName? document).getD "settings") ++ process ++ "." ++ toString n

theorem not_slash_of_mem_toString (n : Nat) : '/' ∉ (toString n).toList := by
  rw [Nat.toString_eq_ofList_toDigits, String.toList_ofList]
  intro h
  exact absurd (Nat.isDigit_of_mem_toDigits (by decide) (by decide) h) (by decide)

theorem isName_tempName (document : String) {process : String} (hprocess : '/' ∉ process.toList)
    (n : Nat) : Path.IsName (tempName document process n) := by
  have hlong : 12 ≤ (tempName document process n).length := by
    have hmarker : tempMarker.length = 12 := by decide
    simp only [tempName, tempStem, String.length_append]
    omega
  have hne {s : String} (hs : s.length < 12) : tempName document process n ≠ s := by
    rintro rfl
    omega
  refine ⟨?_, hne (by decide), hne (by decide), hne (by decide)⟩
  have hstem : '/' ∉ ((Path.fileName? document).getD "settings").toList := by
    cases hname : Path.fileName? document with
    | none => decide
    | some name => exact (Path.fileName?_eq_some_iff.mp hname).2.not_slash
  have hmarker : '/' ∉ tempMarker.toList := by decide
  have hnumber := not_slash_of_mem_toString n
  have hdot : '/' ∉ ".".toList := by decide
  simp only [tempName, tempStem, String.toList_append, List.mem_append, not_or]
  exact ⟨⟨⟨⟨hstem, hmarker⟩, hprocess⟩, hdot⟩, hnumber⟩

theorem ne_tempName {document name : String} (hname : Path.fileName? document = some name)
    (process : String) (n : Nat) : tempName document process n ≠ name := by
  intro heq
  have hlength := congrArg String.length heq
  have hmarker : tempMarker.length = 12 := by decide
  simp only [tempName, hname, Option.getD_some, tempStem, String.length_append] at hlength
  omega

/-- A temporary file never stands where its document stands. -/
theorem target?_tempPath_ne {disk : Disk} {path process : String} {n : Nat}
    {place beside : List String} (hprocess : '/' ∉ process.toList)
    (hplace : disk.target? path = .ok place)
    (hbeside : disk.target? (tempPath path process n) = .ok beside) : beside ≠ place := by
  rcases Disk.target?_withFileName (isName_tempName path hprocess n) hplace hbeside with
    ⟨name, dir, hname, rfl, rfl⟩ | ⟨-, rfl⟩
  · intro heq
    exact ne_tempName hname process n (List.singleton_inj.mp (List.append_cancel_left heq))
  · simp

/-! ### Steps on a disk -/

open FileStep (runAll)

/-- The files after a document was written: it reads as the text, no other file is changed, and the
temporary one is gone. -/
structure Saved (path temp text : String) (before after : Disk) : Prop where
  dirs : before.KeepsDirs after
  document : after.read path = .ok (.text text)
  others : ∀ place, after.target? path ≠ .ok place → after.content? place = before.content? place
  temp : ∀ place, after.target? temp = .ok place → after.content? place = none

/-- The files after a step of writing a document failed: the document has the content that it had,
and no file but the temporary one is changed. That one is gone if it was the move that failed. -/
structure Spared (path temp : String) (failed : FileStep) (before after : Disk) : Prop where
  dirs : before.KeepsDirs after
  document : ∀ place, after.target? path = .ok place →
    after.content? place = before.content? place
  others : ∀ place, after.target? temp ≠ .ok place → after.content? place = before.content? place
  temp : failed = .rename temp path →
    ∀ place, after.target? temp = .ok place → after.content? place = none

section Disk

variable {fs : FileSystem (StateM σ)} {view : σ → Disk} {path temp text : String} {s s' : σ}
  {before made after : Disk}

/-- Making directories first makes no difference to the files. -/
theorem Saved.of_keepsFiles (hmade : before.KeepsFiles made) (h : Saved path temp text made after) :
    Saved path temp text before after :=
  ⟨hmade.toKeepsDirs.trans h.dirs, h.document, hmade.content ▸ h.others, h.temp⟩

theorem Spared.of_keepsFiles {failed : FileStep} (hmade : before.KeepsFiles made)
    (h : Spared path temp failed made after) : Spared path temp failed before after :=
  ⟨hmade.toKeepsDirs.trans h.dirs, hmade.content ▸ h.document, hmade.content ▸ h.others, h.temp⟩

/-- Where no file is changed, all are spared. -/
theorem Spared.of_content?_eq {failed : FileStep} (hdirs : before.KeepsDirs after)
    (hcontent : after.content? = before.content?) (hfailed : failed ≠ .rename temp path) :
    Spared path temp failed before after :=
  ⟨hdirs, fun _ _ ↦ congrFun hcontent _, fun _ _ ↦ congrFun hcontent _,
    fun hmove ↦ absurd hmove hfailed⟩

/-- There is a temporary file where nothing stood before, and nothing else is changed. -/
structure Drafted (temp : String) (before : Disk) (source : List String) (content : Content)
    (during : Disk) : Prop where
  target : before.target? temp = .ok source
  free : before.thing? source = none
  slash : Path.endsInSlash temp = false
  sets : Disk.Sets before during source (some (.file content Disk.fresh))

namespace Drafted

variable {source : List String} {content : Content}

theorem of_createNew (hfs : fs.OnDisk view) (hrun : (fs.createNew temp).run s = (.ok (), s')) :
    ∃ source, Drafted temp (view s) source (.text "") (view s') := by
  obtain ⟨source, htarget, hfree, hslash, hsets⟩ :=
    Disk.createNew_eq_ok ((hfs.createNew temp).of_ok hrun)
  exact ⟨source, htarget, hfree, hslash, hsets⟩

/-- There is room for the temporary file where it stands. -/
theorem room {during : Disk} (h : Drafted temp before source content during) :
    during.Room temp source := by
  refine ⟨h.sets.keepsDirs.target? h.target, ?_, h.slash⟩
  rw [h.sets.thing?_self]
  exact nofun

theorem of_writeContent {content' : Content} {during after : Disk}
    (h : Drafted temp before source content during)
    (hwrite : during.writeContent temp content' (some 0) = .ok after) :
    Drafted temp before source content' after := by
  obtain ⟨place, hplace, hsets⟩ := Disk.writeContent_eq_ok hwrite
  obtain rfl : source = place :=
    Except.ok.inj ((h.sets.keepsDirs.target? h.target).symm.trans hplace)
  exact ⟨h.target, h.free, h.slash, h.sets.trans hsets⟩

theorem of_write_error (hfs : fs.OnDisk view) (h : Drafted temp before source content (view s))
    {e : IoError} (hrun : (fs.write temp text).run s = (.error e, s')) :
    ∃ left, Drafted temp before source left (view s') := by
  rcases hfs.of_write_error hrun with hsame | ⟨left, hwrite⟩
  · exact ⟨content, hsame ▸ h⟩
  · exact ⟨left, h.of_writeContent hwrite⟩

theorem of_sync (hfs : fs.OnDisk view) (h : Drafted temp before source content (view s))
    {answer : Except IoError Unit} {path : String}
    (hrun : (fs.sync path).run s = (answer, s')) :
    Drafted temp before source content (view s') := by
  have hsame := hfs.sync path s
  rw [hrun] at hsame
  exact hsame ▸ h

/-- A temporary file that is moved over a document: nothing but the document is changed. -/
theorem of_rename {during : Disk} (h : Drafted temp before source content during)
    (hrename : during.rename temp path = .ok after) :
    ∃ place, before.Room path place ∧ Disk.endsInDots path = false ∧
      Disk.Sets before after place (some (.file content Disk.fresh)) := by
  obtain ⟨source', place, content', age, mid, hsource, hfile, hplace, hslash, hdots, hdrop, hput⟩ :=
    Disk.rename_eq_ok hrename
  obtain rfl : source = source' :=
    Except.ok.inj ((h.sets.keepsDirs.target? h.target).symm.trans hsource)
  obtain ⟨rfl, rfl⟩ : content = content' ∧ Disk.fresh = age := by
    simpa using h.sets.thing?_self.symm.trans hfile
  have hmid : mid.thing? = before.thing? := by
    rw [(h.sets.trans hdrop).look, ← h.free, Function.update_eq_self]
  have hold : before.thing? place ≠ some .dir := hmid ▸ hput.old
  exact ⟨place, ⟨(h.sets.keepsDirs_symm nofun).target? hplace, hold, hslash⟩, hdots, hold,
    hmid ▸ hput.look, hput.cwd.trans (h.sets.trans hdrop).cwd⟩

/-- A temporary file that is removed: nothing is changed. -/
theorem of_remove (hfs : fs.OnDisk view) (h : Drafted temp before source content (view s)) :
    (view ((fs.remove temp).run s).2).thing? = before.thing? ∧
      (view ((fs.remove temp).run s).2).cwd = before.cwd := by
  have htext : (view s).content? source = some content := by
    rw [Disk.content?, h.sets.thing?_self]
    rfl
  obtain ⟨removed, hremove, hdrop⟩ :=
    Disk.exists_remove_eq_ok (h.sets.keepsDirs.target? h.target) htext h.slash
  rw [hfs.remove_ok temp s removed hremove]
  refine ⟨?_, (h.sets.trans hdrop).cwd⟩
  rw [(h.sets.trans hdrop).look, ← h.free, Function.update_eq_self]

/-- While there is a temporary file, all other files are as they were. -/
theorem spared {process : String} {n : Nat} {failed : FileStep} {during : Disk}
    (hprocess : '/' ∉ process.toList)
    (h : Drafted (tempPath path process n) before source content during)
    (hfailed : failed ≠ .rename (tempPath path process n) path) :
    Spared path (tempPath path process n) failed before during := by
  have htemp := h.sets.keepsDirs.target? h.target
  refine ⟨h.sets.keepsDirs, fun place hplace ↦ ?_, fun place hplace ↦ ?_,
    fun hmove ↦ absurd hmove hfailed⟩
  · exact h.sets.content?_of_ne (target?_tempPath_ne hprocess hplace htemp).symm
  · refine h.sets.content?_of_ne ?_
    rintro rfl
    exact hplace htemp

end Drafted

/-! ### All steps -/

/-- Making the directory of a document makes nothing but directories. -/
theorem keepsFiles_parentSteps (hfs : fs.OnDisk view) (path : String) (s : σ) :
    (view s).KeepsFiles (view ((runAll fs (parentSteps path)).run s).2) := by
  unfold parentSteps
  cases Path.parent? path with
  | none => exact refl_of Disk.KeepsFiles _
  | some parent =>
    dsimp only
    split
    · exact refl_of Disk.KeepsFiles _
    · have hmade := hfs.keepsFiles_makeDirs parent s
      rcases FileStep.run_runAll_cons_cases fs (.makeDirs parent) [] s with
        ⟨mid, hstep, hrun⟩ | ⟨cause, mid, hstep, hrun⟩
      · change (fs.makeDirs parent).run s = _ at hstep
        rw [hstep] at hmade
        rwa [hrun]
      · change (fs.makeDirs parent).run s = _ at hstep
        rw [hstep] at hmade
        rwa [hrun]

theorem exists_of_parentSteps_error {failed : FileStep} {cause : IoError}
    (h : (runAll fs (parentSteps path)).run s = (.error (failed, cause), s')) :
    ∃ dir, failed = .makeDirs dir := by
  unfold parentSteps at h
  split at h
  · exact absurd (congrArg Prod.fst h) nofun
  · split at h
    · exact absurd (congrArg Prod.fst h) nofun
    · rcases FileStep.run_runAll_cons_error_cases h with ⟨hfailed, -⟩ | ⟨mid, -, hrest⟩
      · exact ⟨_, hfailed⟩
      · exact absurd (congrArg Prod.fst hrest) nofun

/-- If all steps that replace a document succeed, there was room for them, and they change the
document and nothing else. -/
theorem sets_of_replaceSteps (hfs : fs.OnDisk view)
    (h : (runAll fs (replaceSteps path temp text)).run s = (.ok (), s')) :
    ∃ source place, (view s).Room temp source ∧ (view s).thing? source = none ∧
      (view s).Room path place ∧ Disk.endsInDots path = false ∧
      Disk.Sets (view s) (view s') place (some (.file (.text text) Disk.fresh)) := by
  obtain ⟨created, hcreate, h⟩ := FileStep.exists_of_run_runAll_cons h
  obtain ⟨written, hwrite, h⟩ := FileStep.exists_of_run_runAll_cons h
  obtain ⟨synced, hsync, h⟩ := FileStep.exists_of_run_runAll_cons h
  obtain ⟨moved, hmove, h⟩ := FileStep.exists_of_run_runAll_cons h
  obtain ⟨-, rfl⟩ := Prod.mk.inj h
  obtain ⟨source, hcreated⟩ := Drafted.of_createNew hfs hcreate
  have hsynced := (hcreated.of_writeContent (hfs.of_write_ok hwrite)).of_sync hfs hsync
  obtain ⟨place, hroom, hdots, hsets⟩ := hsynced.of_rename ((hfs.rename temp path).of_ok hmove)
  have hold : (view s).thing? source ≠ some .dir := by
    rw [hcreated.free]
    exact nofun
  exact ⟨source, place, ⟨hcreated.target, hold, hcreated.slash⟩, hcreated.free, hroom, hdots, hsets⟩

section Process

variable {process : String} {n : Nat} (hfs : fs.OnDisk view) (hprocess : '/' ∉ process.toList)
include hfs hprocess

/-- If all steps of an update succeed, the document is written. -/
theorem saved_of_runAll
    (h : (runAll fs (updateSteps path (tempPath path process n) text)).run s = (.ok (), s')) :
    Saved path (tempPath path process n) text (view s) (view s') := by
  obtain ⟨mid, hmade, h⟩ := FileStep.exists_of_run_runAll_append h
  have hkept := keepsFiles_parentSteps hfs path s
  rw [hmade] at hkept
  obtain ⟨source, place, hsource, hfree, hroom, -, hsets⟩ := sets_of_replaceSteps hfs h
  have hafter := hsets.keepsDirs.target? hroom.target
  refine .of_keepsFiles hkept ⟨hsets.keepsDirs,
    Disk.read_eq_ok_iff.mpr ⟨place, hafter, ?_, hroom.slash⟩,
    fun other hother ↦ hsets.content?_of_ne ?_, fun other hother ↦ ?_⟩
  · rw [hsets.content?_eq, Function.update_self]
    rfl
  · rintro rfl
    exact hother hafter
  · obtain rfl := Except.ok.inj ((hsets.keepsDirs.target? hsource.target).symm.trans hother)
    rw [hsets.content?_of_ne (target?_tempPath_ne hprocess hroom.target hsource.target),
      Disk.content?, hfree]
    rfl

/-- If a step that replaces a document fails, the files are spared. -/
theorem spared_of_replaceSteps {failed : FileStep} {cause : IoError}
    (h : (runAll fs (replaceSteps path (tempPath path process n) text)).run s =
      (.error (failed, cause), s')) :
    Spared path (tempPath path process n) failed (view s) (view ((failed.undo fs).run s').2) := by
  rcases FileStep.run_runAll_cons_error_cases h with ⟨rfl, hcreate⟩ | ⟨created, hcreate, h⟩
  · have hsame := (hfs.createNew _).of_error hcreate
    exact .of_content?_eq (hsame ▸ .refl _) (congrArg Disk.content? hsame) (by simp)
  obtain ⟨source, hcreated⟩ := Drafted.of_createNew hfs hcreate
  rcases FileStep.run_runAll_cons_error_cases h with ⟨rfl, hwrite⟩ | ⟨written, hwrite, h⟩
  · obtain ⟨left, hleft⟩ := hcreated.of_write_error hfs hwrite
    exact hleft.spared hprocess (by simp)
  have hwritten := hcreated.of_writeContent (hfs.of_write_ok hwrite)
  rcases FileStep.run_runAll_cons_error_cases h with ⟨rfl, hsync⟩ | ⟨synced, hsync, h⟩
  · exact (hwritten.of_sync hfs hsync).spared hprocess (by simp)
  have hsynced := hwritten.of_sync hfs hsync
  rcases FileStep.run_runAll_cons_error_cases h with ⟨rfl, hmove⟩ | ⟨moved, -, h⟩
  · -- The file is still there, so it can be removed, and then all is as before.
    rw [← (hfs.rename _ _).of_error hmove] at hsynced
    obtain ⟨hthings, hcwd⟩ := hsynced.of_remove hfs
    have hcontent : (view ((fs.remove (tempPath path process n)).run s').2).content? =
        (view s).content? := by
      funext place
      rw [Disk.content?, hthings, Disk.content?]
    have hdirs : (view s).KeepsDirs (view ((fs.remove (tempPath path process n)).run s').2) :=
      ⟨fun place hdir ↦ hthings ▸ hdir, hcwd⟩
    refine ⟨hdirs, fun _ _ ↦ congrFun hcontent _, fun _ _ ↦ congrFun hcontent _,
      fun _ place hplace ↦ ?_⟩
    obtain rfl := Except.ok.inj ((hdirs.target? hsynced.target).symm.trans hplace)
    refine (congrFun hcontent _).trans ?_
    rw [Disk.content?, hsynced.free]
    rfl
  · obtain ⟨hanswer, -⟩ := Prod.mk.inj h
    contradiction

/-- If a step of an update fails, the files are spared. -/
theorem spared_of_runAll {failed : FileStep} {cause : IoError}
    (h : (runAll fs (updateSteps path (tempPath path process n) text)).run s =
      (.error (failed, cause), s')) :
    Spared path (tempPath path process n) failed (view s) (view ((failed.undo fs).run s').2) := by
  have hkept := keepsFiles_parentSteps hfs path s
  cases hmade : (runAll fs (parentSteps path)).run s with
  | mk answer mid =>
    rw [hmade] at hkept
    rcases answer with ⟨first, cause'⟩ | _
    · rw [updateSteps, FileStep.run_runAll_append_of_error hmade] at h
      obtain ⟨hfailed, rfl⟩ := Prod.mk.inj h
      obtain ⟨rfl, rfl⟩ := Prod.mk.inj (Except.error.inj hfailed)
      obtain ⟨dir, rfl⟩ := exists_of_parentSteps_error hmade
      exact .of_content?_eq hkept.toKeepsDirs hkept.content nofun
    · rw [updateSteps, FileStep.run_runAll_append_of_ok hmade] at h
      exact (spared_of_replaceSteps hfs hprocess h).of_keepsFiles hkept

end Process

end Disk

end Responsive.Store

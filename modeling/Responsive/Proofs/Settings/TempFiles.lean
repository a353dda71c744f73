import Mathlib.Data.List.Nodup
import Responsive.Proofs.Settings.Reopen

/-!
# The temporary files of a store

A store that writes its document goes by way of a temporary file beside it, and takes a new number
for every one. So that it can be said which files those are, a file system is given a record of the
paths at which a new file was asked for; the record is written, but never read.

* `exists_tempPaths_eq`: the temporary files of a store have consecutive numbers.
* `nodup_tempPaths`: no two of them are the same.
* `parent?_tempPath`, `fileName?_tempPath`: they stand in the directory of the document, and their
  names say which document they are for.
-/

set_option autoImplicit false
set_option relaxedAutoImplicit false

namespace Responsive

variable {σ α : Type}

/-! ### A record of new files -/

namespace FileSystem

/-- An operation on files with a record beside them, which it leaves alone. -/
def beside (op : StateM σ α) : StateM (σ × List String) α := fun s ↦
  ((op.run s.1).1, ((op.run s.1).2, s.2))

/-- The file system with a record of the paths at which a new file was asked for. -/
def recorded (fs : FileSystem (StateM σ)) : FileSystem (StateM (σ × List String)) where
  read path := beside (fs.read path)
  list path := beside (fs.list path)
  isDir path := beside (fs.isDir path)
  isFile path := beside (fs.isFile path)
  makeDir path := beside (fs.makeDir path)
  createNew path := do
    modify fun s ↦ (s.1, s.2 ++ [path])
    beside (fs.createNew path)
  write path text := beside (fs.write path text)
  sync path := beside (fs.sync path)
  openAppend path := beside (fs.openAppend path)
  append path text := beside (fs.append path text)
  rename old new := beside (fs.rename old new)
  remove path := beside (fs.remove path)

/-- Nothing but making a new file is recorded. -/
theorem keepsOnceMade_recorded (fs : FileSystem (StateM σ)) (p : Prop) (record : List String) :
    fs.recorded.KeepsOnceMade fun s ↦ p ∧ s.2 = record where
  makeDirs path s h := by
    have hkeeps : OnDisk.Keeps Prod.snd Eq (fs.recorded.makeDirs path) :=
      .makeDirs (fun _ _ ↦ rfl) (fun _ _ ↦ rfl) path
    exact ⟨h.1, (hkeeps s).symm.trans h.2⟩
  write _ _ _ h := h
  sync _ _ h := h
  rename _ _ _ h := h
  remove _ _ h := h

end FileSystem

namespace Store

/-- The paths at which a store asks for a new file while it is asked questions. -/
def tempPaths (fs : FileSystem (StateM σ)) (questions : List (Ask α)) (store : Store) (files : σ) :
    List String :=
  (((askAll fs.recorded questions).run store).run (files, [])).2.2

/-! ### Numbers -/

section Numbers

variable {fs : FileSystem (StateM σ)} {path : String}

/-- Writing a text to a new file records that file. -/
theorem record_replaceDocument (fs : FileSystem (StateM σ)) (path temp text : String)
    (store : Store) (s : σ × List String) :
    (outcome (replaceDocument fs.recorded path temp text) store s).1.2 = store ∧
      (outcome (replaceDocument fs.recorded path temp text) store s).2.2 = s.2 ++ [temp] := by
  have hfill : Preserves (fun kept s' ↦ kept = store ∧ s'.2 = s.2 ++ [temp]) (do
      attempt "Write failed" (fs.recorded.write temp text)
      attempt "Hardware sync failed" (fs.recorded.sync temp)
      moveOver fs.recorded temp path : Update (StateM (σ × List String)) Unit) :=
    .fill (fun kept ↦ fs.keepsOnceMade_recorded (kept = store) _) path temp text
  rw [replaceDocument, outcome_bind, outcome_attempt]
  cases ((fs.recorded.createNew temp).run s).1 with
  | error e => exact ⟨rfl, rfl⟩
  | ok _ => exact hfill store _ ⟨rfl, rfl⟩

/-- Writing the document asks for one temporary file and takes the next number, or neither. -/
theorem record_persist (records : Entries Json) {store : Store} (hpath : store.path = some path)
    (s : σ × List String) :
    ((outcome (persist fs.recorded records) store s).1.2 = store ∧
        (outcome (persist fs.recorded records) store s).2.2 = s.2) ∨
      (outcome (persist fs.recorded records) store s).1.2 =
          { store with nextTemp := store.nextTemp + 1 } ∧
        (outcome (persist fs.recorded records) store s).2.2 =
          s.2 ++ [tempPath path store.process store.nextTemp] := by
  have hmade : Preserves (fun kept s' ↦ kept = store ∧ s'.2 = s.2) (makeParent fs.recorded path) :=
    .makeParent (fun kept ↦ fs.keepsOnceMade_recorded (kept = store) _) path
  replace hmade := hmade store s ⟨rfl, rfl⟩
  rw [persist, outcome_get_bind, hpath]
  dsimp only
  rw [outcome_bind]
  revert hmade
  rcases outcome (makeParent fs.recorded path) store s with ⟨⟨e | _, kept⟩, s'⟩
  · exact .inl
  · rintro ⟨rfl, hsame⟩
    dsimp only at hsame ⊢
    rw [outcome_put_bind, ← hsame, ← hpath]
    exact .inr (record_replaceDocument fs path _ _ _ s')

/-- The store is one of a document, and the record has its temporary files, from the first one
on. -/
structure Numbered (path process : String) (first : Nat) (store : Store) (record : List String) :
    Prop where
  path_eq : store.path = some path
  process_eq : store.process = process
  record_eq : ∃ k, store.nextTemp = first + k ∧
    record = (List.range' first k).map (tempPath path process)

theorem Numbered.lasting (fs : FileSystem (StateM σ)) (path process : String) (first : Nat) :
    Lasting fs.recorded fun store s ↦ Numbered path process first store s.2 where
  memory store definitions records s h := ⟨h.path_eq, h.process_eq, h.record_eq⟩
  persist records store s h := by
    rcases record_persist records h.path_eq s with ⟨hstore, hrecord⟩ | ⟨hstore, hrecord⟩
    · rw [hstore, hrecord]
      exact h
    · rw [hstore, hrecord]
      obtain ⟨k, hnext, hlog⟩ := h.record_eq
      refine ⟨h.path_eq, h.process_eq, k + 1, ?_, ?_⟩
      · change store.nextTemp + 1 = first + (k + 1)
        rw [hnext, Nat.add_assoc]
      · rw [hlog, hnext, h.process_eq, List.range'_1_concat, List.map_append, List.map_singleton]

/-- The temporary files of a store have consecutive numbers. -/
theorem exists_tempPaths_eq (fs : FileSystem (StateM σ)) (questions : List (Ask α)) {store : Store}
    (hpath : store.path = some path) (files : σ) :
    ∃ k, tempPaths fs questions store files =
      (List.range' store.nextTemp k).map (tempPath path store.process) := by
  have hstart : Numbered path store.process store.nextTemp store [] := ⟨hpath, rfl, 0, rfl, rfl⟩
  obtain ⟨k, -, hrecord⟩ :=
    ((Numbered.lasting fs path store.process store.nextTemp).askAll questions
      (s := (files, [])) hstart).record_eq
  exact ⟨k, hrecord⟩

end Numbers

/-! ### Names -/

section Names

variable {path process : String}

theorem fileName?_tempPath (hprocess : '/' ∉ process.toList) (n : Nat) :
    Path.fileName? (tempPath path process n) = some (tempName path process n) :=
  (isName_tempName path hprocess n).fileName?_withFileName path

/-- The name of a temporary file begins as those of its document do. -/
theorem isPrefix_tempName {name : String} (hname : Path.fileName? path = some name)
    (process : String) (n : Nat) :
    (tempStem name).toList <+: (tempName path process n).toList := by
  rw [tempName, hname, Option.getD_some, String.append_assoc, String.append_assoc,
    String.toList_append]
  exact List.prefix_append _ _

/-- A temporary file stands in the directory of its document. -/
theorem parent?_tempPath {name : String} (hname : Path.fileName? path = some name)
    (hprocess : '/' ∉ process.toList) (n : Nat) :
    Path.parent? (tempPath path process n) = Path.parent? path :=
  Path.parent?_withFileName hname (isName_tempName path hprocess n)

theorem tempPath_injective (path : String) (hprocess : '/' ∉ process.toList) :
    Function.Injective (tempPath path process) := by
  intro m n h
  have hnames := congrArg Path.fileName? h
  rw [fileName?_tempPath hprocess, fileName?_tempPath hprocess, Option.some.injEq] at hnames
  have hchars := congrArg String.toList hnames
  simp only [tempName, String.toList_append] at hchars
  have hdigits := List.append_cancel_left hchars
  rw [Nat.toString_eq_ofList_toDigits, Nat.toString_eq_ofList_toDigits, String.toList_ofList,
    String.toList_ofList] at hdigits
  have hnumber := congrArg (Nat.ofDigitChars 10 · 0) hdigits
  simpa only [Nat.ofDigitChars_ten_toDigits] using hnumber

/-- No two temporary files of a store are the same. -/
theorem nodup_tempPaths (fs : FileSystem (StateM σ)) (questions : List (Ask α)) {store : Store}
    (hpath : store.path = some path) (hprocess : '/' ∉ store.process.toList) (files : σ) :
    (tempPaths fs questions store files).Nodup := by
  obtain ⟨k, hk⟩ := exists_tempPaths_eq fs questions hpath files
  rw [hk]
  exact (List.nodup_range' 1).map (tempPath_injective path hprocess)

end Names

end Store

end Responsive

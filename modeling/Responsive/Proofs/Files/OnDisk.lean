import Mathlib.Order.Defs.Unbundled
import Responsive.Files.Flaky
import Responsive.Proofs.Files.Reach

/-!
# File systems that work on a disk

A file system works on a disk if a change that succeeds is the change of that disk, and a change
that fails leaves it as it was, up to what a failed write puts into its own file. The disk in memory
is such a file system, with or without faults, so what follows from this holds of both.

* `OnDisk.Keeps`: programs whose steps keep a relation keep it.
* `OnDisk.keepsFiles_makeDirs`: making directories touches no file.
* `OnDisk.sets_remove`: nothing stands where a file was removed.
-/

set_option autoImplicit false
set_option relaxedAutoImplicit false

namespace Responsive

variable {σ : Type}

/-- The operation does to the disk what the change does, or it fails and leaves the disk alone. -/
def Disk.Does (view : σ → Disk) (op : StateM σ (Except IoError Unit))
    (change : Disk → Except IoError Disk) : Prop :=
  ∀ s, ((op.run s).1 = .ok () ∧ change (view s) = .ok (view (op.run s).2)) ∨
    ∃ e, (op.run s).1 = .error e ∧ view (op.run s).2 = view s

section Does

variable {view : σ → Disk} {op : StateM σ (Except IoError Unit)}
  {change : Disk → Except IoError Disk} {s s' : σ}

theorem Disk.Does.of_ok (h : Does view op change) (hrun : op.run s = (.ok (), s')) :
    change (view s) = .ok (view s') := by
  rcases h s with ⟨-, hdone⟩ | ⟨e, herror, -⟩
  · rwa [hrun] at hdone
  · rw [hrun] at herror
    contradiction

theorem Disk.Does.of_error (h : Does view op change) {e : IoError}
    (hrun : op.run s = (.error e, s')) : view s' = view s := by
  rcases h s with ⟨hok, -⟩ | ⟨e, -, hsame⟩
  · rw [hrun] at hok
    contradiction
  · rwa [hrun] at hsame

end Does

/-- The file system works on a disk. -/
structure FileSystem.OnDisk (fs : FileSystem (StateM σ)) (view : σ → Disk) : Prop where
  read : ∀ path s, (fs.read path).run s = ((view s).read path, s)
  list : ∀ path s, (fs.list path).run s = ((view s).list path, s)
  isDir : ∀ path s, (fs.isDir path).run s = ((view s).isDir path, s)
  makeDir : ∀ path, Disk.Does view (fs.makeDir path) (·.makeDir path)
  createNew : ∀ path, Disk.Does view (fs.createNew path) (·.createNew path)
  /-- A write that fails leaves any content in its file, or nothing happens. -/
  write : ∀ path text s,
    (((fs.write path text).run s).1 = .ok () ∧
      (view s).writeContent path (.text text) (some 0) =
        .ok (view ((fs.write path text).run s).2)) ∨
    ∃ e, ((fs.write path text).run s).1 = .error e ∧
      (view ((fs.write path text).run s).2 = view s ∨ ∃ content,
        (view s).writeContent path content (some 0) = .ok (view ((fs.write path text).run s).2))
  sync : ∀ path s, view ((fs.sync path).run s).2 = view s
  rename : ∀ old new, Disk.Does view (fs.rename old new) (·.rename old new)
  remove : ∀ path, Disk.Does view (fs.remove path) (·.remove path)
  /-- A file that is there is removed. -/
  remove_ok : ∀ path s disk, (view s).remove path = .ok disk →
    view ((fs.remove path).run s).2 = disk

theorem Disk.does_change (f : Disk → Except IoError Disk) : Disk.Does id (Disk.change f) f := by
  intro disk
  simp only [StateT.run, Disk.change, id]
  cases hf : f disk with
  | ok disk' => exact .inl ⟨rfl, rfl⟩
  | error e => exact .inr ⟨e, rfl, rfl⟩

theorem FlakyDisk.changeOr_cases (spoil : Fault → Disk → Disk) (f : Disk → Except IoError Disk)
    (s : FlakyDisk) :
    ((changeOr spoil f s).1 = .ok () ∧ f s.disk = .ok (changeOr spoil f s).2.disk) ∨
      ∃ e, (changeOr spoil f s).1 = .error e ∧ ((changeOr spoil f s).2.disk = s.disk ∨
        ∃ fault, (changeOr spoil f s).2.disk = spoil fault s.disk) := by
  unfold changeOr
  cases s.plan.head?.join with
  | some fault => exact .inr ⟨_, rfl, .inr ⟨fault, rfl⟩⟩
  | none =>
    dsimp only
    cases hf : f s.disk with
    | ok disk' => exact .inl ⟨rfl, rfl⟩
    | error e => exact .inr ⟨e, rfl, .inl rfl⟩

theorem FlakyDisk.does_change (f : Disk → Except IoError Disk) :
    Disk.Does FlakyDisk.disk (FlakyDisk.change f) f := by
  intro s
  rcases changeOr_cases (fun _ disk ↦ disk) f s with hdone | ⟨e, herror, hdisk⟩
  · exact .inl hdone
  · exact .inr ⟨e, herror, hdisk.elim id fun ⟨_, hspoilt⟩ ↦ hspoilt⟩

theorem FlakyDisk.spoilWrite_cases (path : String) (fault : Fault) (disk : Disk) :
    spoilWrite path fault disk = disk ∨
      disk.writeContent path fault.written (some 0) = .ok (spoilWrite path fault disk) := by
  unfold spoilWrite
  cases disk.writeContent path fault.written (some 0) with
  | ok disk' => exact .inr rfl
  | error e => exact .inl rfl

/-- The disk in memory. -/
theorem Disk.onDisk : FileSystem.OnDisk Disk.fileSystem id where
  read _ _ := rfl
  list _ _ := rfl
  isDir _ _ := rfl
  makeDir _ := does_change _
  createNew _ := does_change _
  write path text s :=
    (does_change (·.writeContent path (.text text) (some 0)) s).imp_right
      fun ⟨e, herror, hsame⟩ ↦ ⟨e, herror, .inl hsame⟩
  sync _ _ := rfl
  rename _ _ := does_change _
  remove _ := does_change _
  remove_ok path s disk h := by
    change (Disk.change (·.remove path) s).2 = disk
    simp only [Disk.change]
    rw [show s.remove path = .ok disk from h]

/-- The disk in memory with faults. -/
theorem FlakyDisk.onDisk : FileSystem.OnDisk FlakyDisk.fileSystem FlakyDisk.disk where
  read _ _ := rfl
  list _ _ := rfl
  isDir _ _ := rfl
  makeDir _ := does_change _
  createNew _ := does_change _
  write path text s := by
    rcases changeOr_cases (spoilWrite path) (·.writeContent path (.text text) (some 0)) s with
      hdone | ⟨e, herror, hsame | ⟨fault, hspoilt⟩⟩
    · exact .inl hdone
    · exact .inr ⟨e, herror, .inl hsame⟩
    · have hwritten := spoilWrite_cases path fault s.disk
      rw [← hspoilt] at hwritten
      exact .inr ⟨e, herror, hwritten.imp_right fun hwrite ↦ ⟨fault.written, hwrite⟩⟩
  sync path s := by
    change (FlakyDisk.change .ok s).2.disk = s.disk
    simp only [FlakyDisk.change, changeOr]
    cases s.plan.head?.join <;> rfl
  rename _ _ := does_change _
  remove path s := by
    simp only [StateT.run, fileSystem]
    cases hremove : s.disk.remove path with
    | ok disk => exact .inl ⟨rfl, rfl⟩
    | error e => exact .inr ⟨e, rfl, rfl⟩
  remove_ok path s disk h := by
    simp only [StateT.run, fileSystem]
    rw [h]

/-! ### What programs keep -/

namespace FileSystem.OnDisk

variable {α β τ : Type} {fs : FileSystem (StateM σ)}

/-- The operation takes what is seen of the files to something that it is related to, whatever the
operation answers. -/
def Keeps (view : σ → τ) (R : τ → τ → Prop) (op : StateM σ α) : Prop :=
  ∀ s, R (view s) (view (op.run s).2)

section Preorder

variable {view : σ → τ} {R : τ → τ → Prop} [IsPreorder τ R]

theorem Keeps.pure (a : α) : Keeps view R (Pure.pure a : StateM σ α) :=
  fun s ↦ refl_of R (view s)

theorem Keeps.bind {op : StateM σ α} {next : α → StateM σ β} (hop : Keeps view R op)
    (hnext : ∀ a, Keeps view R (next a)) : Keeps view R (op >>= next) :=
  fun s ↦ trans_of R (hop s) (hnext (op.run s).1 (op.run s).2)

/-- Making directories does what making each of them does. -/
theorem Keeps.makeDirs (hmake : ∀ path, Keeps view R (fs.makeDir path))
    (hisDir : ∀ path, Keeps view R (fs.isDir path)) (path : String) :
    Keeps view R (fs.makeDirs path) := by
  have hcheck (path : String) (e : IoError) :
      Keeps view R (do if ← fs.isDir path then return .ok () else return .error e :
        StateM σ (Except IoError Unit)) := by
    refine (hisDir path).bind fun isDir ↦ ?_
    cases isDir <;> exact .pure _
  rw [FileSystem.makeDirs]
  -- The parent is made with the bound less one, so the induction is on the bound, for all paths.
  generalize path.length + 1 = fuel
  induction fuel generalizing path with
  | zero => exact .pure _
  | succ fuel ih =>
    rw [makeDirsUpTo]
    split
    · exact .pure _
    refine (hmake path).bind fun made ↦ ?_
    split
    · exact .pure _
    · split
      · exact .pure _
      next parent _ =>
        refine (ih parent).bind fun made ↦ ?_
        cases made with
        | error e => exact .pure _
        | ok _ =>
          refine (hmake path).bind fun made ↦ ?_
          cases made with
          | ok _ => exact .pure _
          | error e => exact hcheck path e
    · exact hcheck path _

end Preorder

variable {view : σ → Disk} {R : Disk → Disk → Prop} [IsPreorder Disk R]

theorem keeps_of_does {op : StateM σ (Except IoError Unit)} {change : Disk → Except IoError Disk}
    (h : Disk.Does view op change)
    (hchange : ∀ disk disk', change disk = .ok disk' → R disk disk') :
    Keeps view R op := by
  intro s
  rcases h s with ⟨-, hdone⟩ | ⟨e, -, hsame⟩
  · exact hchange _ _ hdone
  · rw [hsame]
    exact refl_of R _

/-- Making directories on a disk does what making each of them does. -/
theorem keeps_makeDirs (h : fs.OnDisk view)
    (hmake : ∀ path disk disk', Disk.makeDir disk path = .ok disk' → R disk disk')
    (path : String) : Keeps view R (fs.makeDirs path) := by
  refine .makeDirs (fun path ↦ keeps_of_does (h.makeDir path) (hmake path)) (fun path s ↦ ?_) path
  rw [h.isDir]
  exact refl_of R _

end FileSystem.OnDisk

/-! ### Directories -/

/-- No directory goes away, and no file changes. -/
structure Disk.KeepsFiles (disk disk' : Disk) : Prop extends KeepsDirs disk disk' where
  content : disk'.content? = disk.content?

instance : IsPreorder Disk Disk.KeepsFiles where
  refl disk := ⟨.refl disk, rfl⟩
  trans _ _ _ hab hbc := ⟨hab.toKeepsDirs.trans hbc.toKeepsDirs, hbc.content.trans hab.content⟩

theorem Disk.keepsFiles_makeDir {disk disk' : Disk} {path : String}
    (h : disk.makeDir path = .ok disk') : KeepsFiles disk disk' := by
  obtain ⟨place, -, hnone, hsets⟩ := makeDir_eq_ok h
  refine ⟨hsets.keepsDirs, ?_⟩
  have hold : disk.content? place = none := by rw [content?, hnone]; rfl
  rw [hsets.content?_eq, Option.bind_some, Thing.content?, ← hold, Function.update_eq_self]

namespace FileSystem.OnDisk

variable {fs : FileSystem (StateM σ)} {view : σ → Disk}

/-- Making directories touches no file. -/
theorem keepsFiles_makeDirs (h : fs.OnDisk view) (path : String) :
    Keeps view Disk.KeepsFiles (fs.makeDirs path) :=
  h.keeps_makeDirs (fun _ _ _ ↦ Disk.keepsFiles_makeDir) path

/-! ### Writing -/

theorem of_write_ok (h : fs.OnDisk view) {path text : String} {s s' : σ}
    (hrun : (fs.write path text).run s = (.ok (), s')) :
    (view s).writeContent path (.text text) (some 0) = .ok (view s') := by
  rcases h.write path text s with ⟨-, hdone⟩ | ⟨e, herror, -⟩
  · rwa [hrun] at hdone
  · rw [hrun] at herror
    contradiction

/-- A write that failed did nothing, or it left something in its file. -/
theorem of_write_error (h : fs.OnDisk view) {path text : String} {e : IoError} {s s' : σ}
    (hrun : (fs.write path text).run s = (.error e, s')) :
    view s' = view s ∨ ∃ content, (view s).writeContent path content (some 0) = .ok (view s') := by
  rcases h.write path text s with ⟨hok, -⟩ | ⟨e, -, hleft⟩
  · rw [hrun] at hok
    contradiction
  · rwa [hrun] at hleft

/-! ### Changes of one place after the other -/

theorem reaches_write (h : fs.OnDisk view) (path text : String) :
    Keeps view Disk.Reaches (fs.write path text) := by
  intro s
  rcases h.write path text s with ⟨-, hdone⟩ | ⟨e, -, hsame | ⟨content, hdone⟩⟩
  · exact Disk.reaches_writeContent hdone
  · rw [hsame]
  · exact Disk.reaches_writeContent hdone

theorem reaches_remove (h : fs.OnDisk view) (path : String) :
    Keeps view Disk.Reaches (fs.remove path) :=
  keeps_of_does (h.remove path) fun _ _ ↦ Disk.reaches_remove

/-! ### Removed files -/

/-- After removing what is no directory nothing stands in its place, whether it was there or not. -/
theorem sets_remove (h : fs.OnDisk view) {path : String} {place : List String} {s : σ}
    (htarget : (view s).target? path = .ok place) (hslash : Path.endsInSlash path = false)
    (hplace : (view s).thing? place ≠ some .dir) :
    Disk.Sets (view s) (view ((fs.remove path).run s).2) place none := by
  cases hthing : (view s).thing? place with
  | some thing =>
    cases thing with
    | dir => contradiction
    | file content age =>
      have hcontent : (view s).content? place = some content := by
        rw [Disk.content?, hthing]
        rfl
      obtain ⟨disk, hremove, hsets⟩ := Disk.exists_remove_eq_ok htarget hcontent hslash
      rwa [h.remove_ok path s disk hremove]
  | none =>
    -- There is nothing to remove, so the disk stays as it is.
    rcases h.remove path s with ⟨-, hdone⟩ | ⟨e, -, hsame⟩
    · obtain ⟨found, content, hfound, hcontent, -⟩ := Disk.remove_eq_ok hdone
      obtain rfl := Except.ok.inj (htarget.symm.trans hfound)
      rw [Disk.content?, hthing] at hcontent
      contradiction
    · rw [hsame]
      refine ⟨hplace, ?_, rfl⟩
      rw [← hthing, Function.update_eq_self]

end FileSystem.OnDisk

end Responsive

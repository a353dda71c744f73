import Mathlib.Logic.Relation
import Responsive.Proofs.Files.Changes

/-!
# What becomes of a disk

Whatever a program does to a disk, it changes one place after the other, and each of them is one
that a path leads to. So the names on the disk stay names that a path can have, and a file that no
other path leads to reads as before.

* `Reaches`: disks that come from one another by such changes.
* `Proper.of_reaches`: the names on a disk stay names of directory entries.
* `read_of_remove`: removing another file does not change what a path reads as.
-/

set_option autoImplicit false
set_option relaxedAutoImplicit false

namespace Responsive.Disk

/-- The second disk is the first one with something else at a place that a path leads to. -/
def Changes (disk disk' : Disk) : Prop :=
  ∃ path place thing, disk.target? path = .ok place ∧ Sets disk disk' place thing

/-- The second disk comes from the first one by changing one place after the other. -/
abbrev Reaches : Disk → Disk → Prop :=
  Relation.ReflTransGen Changes

/-- All names on the disk, and all names of the working directory, are names of entries. -/
structure Proper (disk : Disk) : Prop where
  isName : ∀ place name, disk.thing? (place ++ [name]) ≠ none → Path.IsName name
  cwd : ∀ name ∈ disk.cwd, Path.IsName name

variable {disk disk' : Disk} {path : String} {place : List String}

/-- There are no names on an empty disk. -/
theorem proper_empty : Proper {} := by
  refine ⟨fun place name hthing ↦ absurd ?_ hthing, nofun⟩
  cases place <;> rfl

/-! ### Changes -/

theorem Proper.of_changes (h : disk.Proper) (hchanges : disk.Changes disk') : disk'.Proper := by
  obtain ⟨path, place, thing, htarget, hsets⟩ := hchanges
  refine ⟨fun lead name hthing ↦ ?_, by rw [hsets.cwd]; exact h.cwd⟩
  by_cases hplace : lead ++ [name] = place
  · subst hplace
    obtain ⟨lead', name', heq, hmem, hdot, hdots, -⟩ :=
      follow_parent disk.thing?_root (follow_of_target?_eq_ok htarget) hsets.old
    obtain rfl : name = name' := by simpa using congrArg List.getLast? heq
    rcases List.mem_append.mp hmem with hcwd | hpart
    · split at hcwd
      · exact absurd hcwd List.not_mem_nil
      · exact h.cwd name hcwd
    · exact Path.isName_of_mem_parts hpart hdot hdots
  · rw [hsets.look, Function.update_of_ne hplace] at hthing
    exact h.isName lead name hthing

/-- The names on a disk stay names of entries. -/
theorem Proper.of_reaches (h : disk.Proper) (hreaches : disk.Reaches disk') : disk'.Proper := by
  induction hreaches with
  | refl => exact h
  | tail _ hchanges ih => exact ih.of_changes hchanges

theorem reaches_of_sets {thing : Option Thing} (htarget : disk.target? path = .ok place)
    (h : Sets disk disk' place thing) : disk.Reaches disk' :=
  .single ⟨path, place, thing, htarget, h⟩

theorem reaches_makeDir (h : disk.makeDir path = .ok disk') : disk.Reaches disk' := by
  obtain ⟨place, htarget, -, hsets⟩ := makeDir_eq_ok h
  exact reaches_of_sets htarget hsets

theorem reaches_createNew (h : disk.createNew path = .ok disk') : disk.Reaches disk' := by
  obtain ⟨place, htarget, -, -, hsets⟩ := createNew_eq_ok h
  exact reaches_of_sets htarget hsets

theorem reaches_writeContent {content : Content} {seconds : Option Int}
    (h : disk.writeContent path content seconds = .ok disk') : disk.Reaches disk' := by
  obtain ⟨place, htarget, hsets⟩ := writeContent_eq_ok h
  exact reaches_of_sets htarget hsets

theorem reaches_remove (h : disk.remove path = .ok disk') : disk.Reaches disk' := by
  obtain ⟨place, -, htarget, -, hsets⟩ := remove_eq_ok h
  exact reaches_of_sets htarget hsets

theorem reaches_rename {old new : String} (h : disk.rename old new = .ok disk') :
    disk.Reaches disk' := by
  obtain ⟨source, place, content, age, mid, hsource, -, hplace, -, -, hdrop, hput⟩ := rename_eq_ok h
  exact (reaches_of_sets hsource hdrop).trans
    (reaches_of_sets (hdrop.keepsDirs.target? hplace) hput)

/-- The disk with a text in a file that was changed some seconds ago, if it can be written there. -/
def holding (disk : Disk) (path text : String) (seconds : Int) : Disk :=
  (disk.writeContent path (.text text) (some seconds)).toOption.getD disk

theorem reaches_holding (disk : Disk) (path text : String) (seconds : Int) :
    disk.Reaches (disk.holding path text seconds) := by
  rw [holding]
  cases hwrite : disk.writeContent path (.text text) (some seconds) with
  | ok written => exact reaches_writeContent hwrite
  | error e => exact .refl

theorem read_holding {text : String} {seconds : Int}
    (h : (disk.writeContent path (.text text) (some seconds)).isOk = true)
    (hslash : Path.endsInSlash path = false) :
    (disk.holding path text seconds).read path = .ok (.text text) := by
  rw [holding]
  cases hwrite : disk.writeContent path (.text text) (some seconds) with
  | ok written => exact read_of_writeContent hwrite hslash
  | error e =>
    rw [hwrite] at h
    contradiction

/-! ### Listings -/

/-- What is listed is in the directory that the path leads to. -/
theorem exists_of_list_eq_ok {entries : List DirEntry} (h : disk.list path = .ok entries) :
    ∃ place, disk.target? path = .ok place ∧
      ∀ entry ∈ entries, disk.thing? (place ++ [entry.name]) ≠ none := by
  unfold list at h
  cases hlocate : disk.locate path with
  | error e => rw [hlocate] at h; contradiction
  | ok spot =>
    rw [hlocate] at h
    rcases spot with ⟨place, inner | _⟩ | _
    · obtain rfl := Except.ok.inj h
      obtain ⟨htarget, hinner⟩ := locate_eq_dir hlocate
      refine ⟨place, htarget, fun entry hentry ↦ ?_⟩
      obtain ⟨⟨name, node⟩, hmem, rfl⟩ := List.mem_map.mp hentry
      have hname : (Disk.entry name node).name = name := by cases node <;> rfl
      have hlookup : inner.lookup name ≠ none := by
        rw [ne_eq, List.lookup_eq_none_iff]
        intro hnone
        simpa using hnone (name, node) hmem
      rw [hname, ne_eq, thing?_eq_none_iff, Folder.find?_append hinner, Folder.find?_cons]
      cases hfound : inner.lookup name with
      | none => exact absurd hfound hlookup
      | some node => cases node <;> simp [Folder.find?]
    · contradiction
    · contradiction

/-! ### Removed files -/

theorem follow_notFound {look look' : List String → Option Thing}
    (hdir : ∀ place, look place = some .dir → look' place = some .dir)
    (hnone : ∀ place, look place = none → look' place = none) {start names : List String}
    (h : follow look start names = .error .notFound) :
    follow look' start names = .error .notFound := by
  induction names generalizing start with
  | nil => contradiction
  | cons name names ih =>
    rw [follow] at h ⊢
    split at h
    next hdot => rw [if_pos hdot]; exact ih h
    next hdot =>
      rw [if_neg hdot]
      split at h
      next hdots => rw [if_pos hdots]; exact ih h
      next hdots =>
        rw [if_neg hdots]
        split at h
        · cases h
        next hlong =>
          rw [if_neg hlong]
          split at h
          next hlook =>
            rw [hdir _ hlook]
            exact ih h
          next hlook =>
            rw [hnone _ hlook]
            exact h
          next => split at h <;> cases h

theorem settle_ne_notFound (path : String) (spot : Spot) : settle path spot ≠ .error .notFound := by
  rcases spot with ⟨_, _ | ⟨_, _⟩⟩ | _
  · simp [settle]
  · rw [settle]
    split <;> simp
  · simp [settle]

/-- Nothing is read if the path leads nowhere, or to a place where nothing is. -/
theorem read_eq_notFound_iff :
    disk.read path = .error .notFound ↔ disk.target? path = .error .notFound ∨
      ∃ place, disk.target? path = .ok place ∧ disk.thing? place = none := by
  unfold read
  constructor
  · intro h
    cases hlocate : disk.locate path with
    | error e =>
      rw [hlocate] at h
      obtain rfl := Except.error.inj h
      rw [locate_eq] at hlocate
      cases htarget : disk.target? path with
      | error e =>
        rw [htarget] at hlocate
        exact .inl (congrArg _ (Except.error.inj hlocate))
      | ok place =>
        rw [htarget] at hlocate
        exact absurd hlocate (settle_ne_notFound path _)
    | ok spot =>
      rw [hlocate] at h
      rcases spot with ⟨_, _ | _⟩ | place
      · cases h
      · cases h
      · exact .inr ⟨place, locate_eq_vacant_iff.mp hlocate⟩
  · rintro (htarget | ⟨place, htarget, hnone⟩)
    · rw [locate_eq, htarget]
      rfl
    · rw [locate_eq_vacant_iff.mpr ⟨htarget, hnone⟩]
      rfl

/-- The path reads as a file, or there is nothing to read. -/
def Settled (disk : Disk) (path : String) : Prop :=
  disk.read path = .error .notFound ∨ ∃ content, disk.read path = .ok content

/-- Removing another file does not change what a path reads as. -/
theorem read_of_remove {other : String} (h : disk.remove other = .ok disk')
    (hother : ∀ place, disk.target? other = .ok place → disk.target? path ≠ .ok place)
    (hsettled : disk.Settled path) : disk'.read path = disk.read path := by
  obtain ⟨gone, old, htarget, -, hsets⟩ := remove_eq_ok h
  rcases hsettled with hmissing | ⟨content, hcontent⟩
  · rw [hmissing, read_eq_notFound_iff]
    have hnone : ∀ place, disk.thing? place = none → disk'.thing? place = none := by
      intro place hplace
      rw [hsets.look, Function.update_apply, hplace, ite_self]
    rcases read_eq_notFound_iff.mp hmissing with hnowhere | ⟨place, hplace, hthing⟩
    · exact .inl (target?_eq_of_follow hsets.cwd
        (fun _ ↦ follow_notFound hsets.keepsDirs.dir hnone) hnowhere)
    · exact .inr ⟨place, hsets.keepsDirs.target? hplace, hnone place hthing⟩
  · rw [hcontent]
    obtain ⟨place, hplace, hfile, hslash⟩ := read_eq_ok_iff.mp hcontent
    refine read_eq_ok_iff.mpr ⟨place, hsets.keepsDirs.target? hplace, ?_, hslash⟩
    rw [hsets.content?_of_ne, hfile]
    rintro rfl
    exact hother place htarget hplace

end Responsive.Disk

import Responsive.Proofs.Files.Places

/-!
# What the operations change

An operation that succeeds changes what stands at one place, a move at two, and no directory goes
away by it. Such a change is an update of the map from places to things.

* `createNew_eq_ok`, `rename_eq_ok` and so on: what the operations do to the map.
* `read_eq_ok_iff`: what reading answers.
* `target?_withFileName`: paths beside one another lead to places beside one another.
* `eq_of_target?_directory`: a path leads to an entry of its directory.
-/

set_option autoImplicit false
set_option relaxedAutoImplicit false

namespace Responsive.Disk

/-- What a file holds. -/
def Thing.content? : Thing → Option Content
  | .dir => none
  | .file content _ => some content

/-- What the file at a place holds. -/
def content? (disk : Disk) (place : List String) : Option Content :=
  (disk.thing? place).bind Thing.content?

/-- The second disk is the first one with something else, or nothing, at a place that is not that of
a directory. -/
structure Sets (disk disk' : Disk) (place : List String) (thing : Option Thing) : Prop where
  old : disk.thing? place ≠ some .dir
  look : disk'.thing? = Function.update disk.thing? place thing
  cwd : disk'.cwd = disk.cwd

theorem thing?_root (disk : Disk) : disk.thing? [] = some .dir := rfl

namespace Sets

variable {disk disk' : Disk} {place : List String} {thing : Option Thing}

theorem keepsDirs (h : Sets disk disk' place thing) : KeepsDirs disk disk' where
  dir other hdir := by
    have hne : other ≠ place := fun heq ↦ h.old (heq ▸ hdir)
    rw [h.look, Function.update_of_ne hne, hdir]
  cwd := h.cwd

/-- Directories are kept the other way round as well, if none is what is set. -/
theorem keepsDirs_symm (h : Sets disk disk' place thing) (hthing : thing ≠ some .dir) :
    KeepsDirs disk' disk where
  dir other hdir := by
    rw [h.look, Function.update_apply] at hdir
    split at hdir
    · exact absurd hdir hthing
    · exact hdir
  cwd := h.cwd.symm

theorem thing?_self (h : Sets disk disk' place thing) : disk'.thing? place = thing := by
  rw [h.look, Function.update_self]

/-- No directory is made unless it is what is set. -/
theorem thing?_ne_dir (h : Sets disk disk' place thing) (hthing : thing ≠ some .dir)
    {other : List String} (hother : disk.thing? other ≠ some .dir) :
    disk'.thing? other ≠ some .dir := by
  rw [h.look, Function.update_apply]
  split
  · exact hthing
  · exact hother

theorem content?_eq (h : Sets disk disk' place thing) :
    disk'.content? = Function.update disk.content? place (thing.bind Thing.content?) := by
  funext other
  by_cases hother : other = place
  · subst hother
    rw [content?, h.thing?_self, Function.update_self]
  · rw [content?, h.look, Function.update_of_ne hother, Function.update_of_ne hother, content?]

theorem content?_of_ne (h : Sets disk disk' place thing) {other : List String}
    (hne : other ≠ place) : disk'.content? other = disk.content? other := by
  rw [h.content?_eq, Function.update_of_ne hne]

end Sets

theorem Sets.trans {a b c : Disk} {place : List String} {x y : Option Thing}
    (hab : Sets a b place x) (hbc : Sets b c place y) : Sets a c place y where
  old := hab.old
  look := by rw [hbc.look, hab.look, Function.update_idem]
  cwd := hbc.cwd.trans hab.cwd

theorem sets_put {disk : Disk} {place : List String} {name : String} (node : Node)
    (hnode : node.IsLeaf) (hdir : disk.thing? place = some .dir)
    (hold : disk.thing? (place ++ [name]) ≠ some .dir) :
    Sets disk (disk.put (place ++ [name]) node) (place ++ [name]) (some node.thing) :=
  ⟨hold, Folder.thing?_within (Folder.changesName_set hnode name) hdir hold, rfl⟩

theorem sets_drop {disk : Disk} {place : List String} {name : String}
    (hdir : disk.thing? place = some .dir) (hold : disk.thing? (place ++ [name]) ≠ some .dir) :
    Sets disk (disk.drop (place ++ [name])) (place ++ [name]) none :=
  ⟨hold, Folder.thing?_within (Folder.changesName_unset name) hdir hold, rfl⟩

/-! ### Where paths lead -/

section Follow

variable {disk : Disk} {start place : List String} {names : List String}

/-- The directory that holds a directory. -/
theorem thing?_dropLast (h : disk.thing? start = some .dir) :
    disk.thing? start.dropLast = some .dir := by
  rcases List.eq_nil_or_concat start with rfl | ⟨lead, name, rfl⟩
  · exact h
  · rw [List.concat_eq_append] at h ⊢
    rw [List.dropLast_concat]
    have hne : disk.thing? (lead ++ [name]) ≠ none := by simp [h]
    exact Folder.thing?_parent hne

/-- Names lead to a directory, or to an entry of one. -/
theorem follow_parent (hstart : disk.thing? start = some .dir)
    (h : follow disk.thing? start names = .ok place) (hplace : disk.thing? place ≠ some .dir) :
    ∃ lead name, place = lead ++ [name] ∧ name ∈ names ∧ name ≠ "." ∧ name ≠ ".." ∧
      disk.thing? lead = some .dir := by
  -- A further name in front changes nothing but the list in which the last name is found.
  have lift {first : String} {rest : List String}
      (hrest : ∃ lead name, place = lead ++ [name] ∧ name ∈ rest ∧ name ≠ "." ∧ name ≠ ".." ∧
        disk.thing? lead = some .dir) :
      ∃ lead name, place = lead ++ [name] ∧ name ∈ first :: rest ∧ name ≠ "." ∧ name ≠ ".." ∧
        disk.thing? lead = some .dir := by
    obtain ⟨lead, name, heq, hmem, hlead⟩ := hrest
    exact ⟨lead, name, heq, List.mem_cons_of_mem first hmem, hlead⟩
  induction names generalizing start with
  | nil =>
    obtain rfl := Except.ok.inj h
    contradiction
  | cons first names ih =>
    rw [follow] at h
    split at h
    · exact lift (ih hstart h)
    next hdot =>
      split at h
      · exact lift (ih (thing?_dropLast hstart) h)
      next hdots =>
        split at h
        · contradiction
        have hlast (hfound : start ++ [first] = place) :
            ∃ lead name, place = lead ++ [name] ∧ name ∈ first :: names ∧ name ≠ "." ∧
              name ≠ ".." ∧ disk.thing? lead = some .dir :=
          ⟨start, first, hfound.symm, List.mem_cons_self, hdot, hdots, hstart⟩
        split at h
        next hdir => exact lift (ih hdir h)
        next => exact hlast (ite_nil_eq_ok_iff.mp h).2
        next => exact hlast (ite_nil_eq_ok_iff.mp h).2

/-- In front of more names only a directory can be. -/
theorem follow_append {lead : List String} (hstart : disk.thing? start = some .dir)
    (hnames : names ≠ []) (h : follow disk.thing? start (lead ++ names) = .ok place) :
    ∃ dir, follow disk.thing? start lead = .ok dir ∧ disk.thing? dir = some .dir ∧
      follow disk.thing? dir names = .ok place := by
  induction lead generalizing start with
  | nil => exact ⟨start, rfl, hstart, h⟩
  | cons first lead ih =>
    rw [List.cons_append, follow] at h
    rw [follow]
    split at h
    next hdot => rw [if_pos hdot]; exact ih hstart h
    next hdot =>
      rw [if_neg hdot]
      split at h
      next hdots => rw [if_pos hdots]; exact ih (thing?_dropLast hstart) h
      next hdots =>
        rw [if_neg hdots]
        split at h
        · contradiction
        next hlong =>
          rw [if_neg hlong]
          split at h
          next hdir => exact ih hdir h
          next => exact absurd (List.append_eq_nil_iff.mp (ite_nil_eq_ok_iff.mp h).1).2 hnames
          next => exact absurd (List.append_eq_nil_iff.mp (ite_nil_eq_ok_iff.mp h).1).2 hnames

theorem follow_dots (look : List String → Option Thing) (start : List String) (k : Nat) :
    follow look start (List.replicate k ".") = .ok start := by
  induction k with
  | zero => rfl
  | succ k ih =>
    rw [List.replicate_succ, follow, if_pos rfl]
    exact ih

/-- A single name leads to an entry of the directory. -/
theorem eq_of_follow_singleton {look : List String → Option Thing} {name : String}
    (hname : Path.IsName name) (h : follow look start [name] = .ok place) :
    place = start ++ [name] := by
  rw [follow, if_neg hname.ne_dot, if_neg hname.ne_dots] at h
  split at h
  · contradiction
  · split at h
    · exact (Except.ok.inj h).symm
    · exact (Except.ok.inj h).symm
    · exact (Except.ok.inj h).symm

end Follow

section Target

variable {disk : Disk} {path : String} {place : List String}

/-- A path that leads somewhere is followed from the root or from the working directory. -/
theorem follow_of_target?_eq_ok (h : disk.target? path = .ok place) :
    follow disk.thing? [] ((if Path.isAbsolute path.toList then [] else disk.cwd) ++
      Path.parts path) = .ok place := by
  unfold target? at h
  split at h
  · contradiction
  split at h
  · contradiction
  split at h
  · contradiction
  exact h

theorem target?_parent (h : disk.target? path = .ok place)
    (hplace : disk.thing? place ≠ some .dir) :
    ∃ lead name, place = lead ++ [name] ∧ disk.thing? lead = some .dir := by
  obtain ⟨lead, name, heq, -, -, -, hlead⟩ :=
    follow_parent disk.thing?_root (follow_of_target?_eq_ok h) hplace
  exact ⟨lead, name, heq, hlead⟩

/-- A path that ends in a name leads to an entry of that name, in the directory to which the part in
front of the name leads. -/
theorem target?_of_parts_eq {lead : List String} {name : String} (hname : Path.IsName name)
    (hparts : Path.parts path = lead ++ [name]) (h : disk.target? path = .ok place) :
    ∃ dir, follow disk.thing? [] ((if Path.isAbsolute path.toList then [] else disk.cwd) ++ lead) =
        .ok dir ∧ disk.thing? dir = some .dir ∧ place = dir ++ [name] := by
  have hfollow := follow_of_target?_eq_ok h
  rw [hparts, ← List.append_assoc] at hfollow
  obtain ⟨dir, hlead, hdir, hlast⟩ :=
    follow_append disk.thing?_root (List.cons_ne_nil name []) hfollow
  exact ⟨dir, hlead, hdir, eq_of_follow_singleton hname hlast⟩

/-- What the names of a path lead to, with dots behind them, is what they lead to, or no path. -/
theorem follow_append_dots {start names : List String} {k : Nat}
    (hstart : disk.thing? start = some .dir)
    (h : follow disk.thing? start (names ++ List.replicate k ".") = .ok place) :
    follow disk.thing? start names = .ok place := by
  cases k with
  | zero => simpa using h
  | succ k =>
    obtain ⟨dir, hnames, -, hdots⟩ := follow_append hstart (by simp) h
    rw [follow_dots] at hdots
    rwa [← Except.ok.inj hdots]

/-- A path leads to an entry of its last name, in the directory to which the part in front of the
name leads. -/
theorem target?_of_fileName?_eq_some {name : String} {lead : List String} {j k : Nat}
    (hname : Path.fileName? path = some name)
    (hparts : Path.parts path = lead ++ List.replicate j "." ++ name :: List.replicate k ".")
    (h : disk.target? path = .ok place) :
    ∃ dir, follow disk.thing? [] ((if Path.isAbsolute path.toList then [] else disk.cwd) ++ lead) =
        .ok dir ∧ place = dir ++ [name] := by
  have hfollow := follow_of_target?_eq_ok h
  have hassoc : lead ++ List.replicate j "." ++ name :: List.replicate k "." =
      (lead ++ List.replicate j "." ++ [name]) ++ List.replicate k "." := by simp
  rw [hparts, hassoc, ← List.append_assoc] at hfollow
  have hdots := follow_append_dots disk.thing?_root hfollow
  rw [← List.append_assoc] at hdots
  obtain ⟨dir, hdir, -, hlast⟩ :=
    follow_append disk.thing?_root (List.cons_ne_nil name []) hdots
  rw [← List.append_assoc] at hdir
  exact ⟨dir, follow_append_dots disk.thing?_root hdir,
    eq_of_follow_singleton (Path.fileName?_eq_some_iff.mp hname).2 hlast⟩

theorem exists_of_fileName?_eq_some {name : String} (hname : Path.fileName? path = some name)
    (h : disk.target? path = .ok place) : ∃ dir, place = dir ++ [name] := by
  obtain ⟨parent, j, k, -, hparts, -⟩ := Path.parts_of_fileName?_eq_some hname
  obtain ⟨dir, -, hplace⟩ := target?_of_fileName?_eq_some hname hparts h
  exact ⟨dir, hplace⟩

/-- Paths that differ in the last name lead to entries of one directory. -/
theorem target?_withFileName {new : String} {beside : List String} (hnew : Path.IsName new)
    (hpath : disk.target? path = .ok place)
    (hbeside : disk.target? (Path.withFileName path new) = .ok beside) :
    (∃ name dir, Path.fileName? path = some name ∧ place = dir ++ [name] ∧ beside = dir ++ [new]) ∨
      (Path.fileName? path = none ∧ beside = place ++ [new]) := by
  have hstart := @Path.isAbsolute_withFileName path new hnew
  cases hname : Path.fileName? path with
  | none =>
    right
    refine ⟨rfl, ?_⟩
    obtain ⟨dir, hdir, -, rfl⟩ :=
      target?_of_parts_eq hnew (Path.parts_withFileName_of_none hname hnew) hbeside
    rw [hstart, follow_of_target?_eq_ok hpath] at hdir
    rw [Except.ok.inj hdir]
  | some name =>
    left
    obtain ⟨parent, j, k, -, hparts, hwith⟩ := Path.parts_of_fileName?_eq_some hname
    obtain ⟨dir, hdir, -, rfl⟩ := target?_of_parts_eq hnew (hwith new hnew) hbeside
    obtain ⟨front, hfront, rfl⟩ := target?_of_fileName?_eq_some hname hparts hpath
    rw [hstart, hfront] at hdir
    obtain rfl := Except.ok.inj hdir
    exact ⟨name, front, rfl, rfl, rfl⟩

/-- A path inside a directory leads to an entry of that directory. -/
theorem eq_of_target?_join {dir name : String} {found : List String} (hname : Path.IsName name)
    (hdir : disk.target? dir = .ok place) (h : disk.target? (Path.join dir name) = .ok found) :
    found = place ++ [name] := by
  obtain ⟨lead, hlead, -, rfl⟩ := target?_of_parts_eq hname (hname.parts_join dir) h
  rw [Path.isAbsolute_join hname.isAbsolute_eq_false, follow_of_target?_eq_ok hdir] at hlead
  rw [Except.ok.inj hlead]

/-- A path leads to an entry of its directory. -/
theorem eq_of_target?_directory {name : String} {here : List String}
    (hname : Path.fileName? path = some name)
    (hdir : disk.target? (Path.directory path) = .ok place) (h : disk.target? path = .ok here) :
    here = place ++ [name] := by
  obtain ⟨parent, j, k, hparent, hparts, -⟩ := Path.parts_of_fileName?_eq_some hname
  obtain ⟨parent', hparent', -, habsolute⟩ := Path.parent?_of_fileName?_eq_some hname
  obtain rfl := Option.some.inj (hparent.symm.trans hparent')
  obtain ⟨lead, hlead, rfl⟩ := target?_of_fileName?_eq_some hname hparts h
  have hfollow := follow_of_target?_eq_ok hdir
  rw [Path.directory, hparent, Option.getD_some] at hfollow
  rw [← habsolute] at hlead
  suffices hplace : lead = place by rw [hplace]
  apply Except.ok.inj
  rw [← hlead]
  split at hfollow
  next hempty =>
    obtain rfl : parent = "" := by simpa using hempty
    have hdot : Path.parts "." = List.replicate 1 "." := by rfl
    have hstart : Path.isAbsolute ".".toList = Path.isAbsolute "".toList := by rfl
    rw [hdot, hstart] at hfollow
    rw [Path.parts_empty, List.append_nil]
    exact follow_append_dots disk.thing?_root hfollow
  next => exact hfollow

end Target

/-! ### Operations -/

section Operations

variable {disk disk' : Disk} {path : String}

theorem read_eq_ok_iff {content : Content} :
    disk.read path = .ok content ↔
      ∃ place, disk.target? path = .ok place ∧ disk.content? place = some content ∧
        Path.endsInSlash path = false := by
  have hcontent (place : List String) : disk.content? place = some content ↔
      ∃ age, disk.thing? place = some (.file content age) := by
    rw [content?]
    rcases disk.thing? place with _ | _ | ⟨_, _⟩ <;> simp [Thing.content?]
  constructor
  · intro h
    unfold read at h
    cases hlocate : disk.locate path with
    | error e => rw [hlocate] at h; contradiction
    | ok spot =>
      rw [hlocate] at h
      cases spot with
      | vacant place => contradiction
      | node place node =>
        cases node with
        | dir inner => contradiction
        | file old age =>
          obtain rfl := Except.ok.inj h
          obtain ⟨htarget, hfile, hslash⟩ := locate_eq_file_iff.mp hlocate
          exact ⟨place, htarget, (hcontent place).mpr ⟨age, hfile⟩, hslash⟩
  · rintro ⟨place, htarget, hplace, hslash⟩
    obtain ⟨age, hfile⟩ := (hcontent place).mp hplace
    rw [read, locate_eq_file_iff.mpr ⟨htarget, hfile, hslash⟩]
    rfl

section Target

variable {place : List String} (htarget : disk.target? path = .ok place)
  (hold : disk.thing? place ≠ some .dir)
include htarget hold

/-- A node may be put where a path leads to no directory. -/
theorem sets_put_of_target? (node : Node) (hnode : node.IsLeaf) :
    Sets disk (disk.put place node) place (some node.thing) := by
  obtain ⟨lead, name, rfl, hdir⟩ := target?_parent htarget hold
  exact sets_put node hnode hdir hold

/-- What a path leads to may be dropped, if it is no directory. -/
theorem sets_drop_of_target? : Sets disk (disk.drop place) place none := by
  obtain ⟨lead, name, rfl, hdir⟩ := target?_parent htarget hold
  exact sets_drop hdir hold

/-- What a path leads to may be replaced, if it is no directory. -/
theorem sets_replace_of_target? (node : Node) (hnode : node.IsLeaf) :
    Sets disk ((disk.drop place).put place node) place (some node.thing) := by
  have hdrop := sets_drop_of_target? htarget hold
  refine hdrop.trans (sets_put_of_target? (hdrop.keepsDirs.target? htarget) ?_ node hnode)
  rw [hdrop.thing?_self]
  simp

end Target

theorem makeDir_eq_ok (h : disk.makeDir path = .ok disk') :
    ∃ place, disk.target? path = .ok place ∧ disk.thing? place = none ∧
      Sets disk disk' place (some .dir) := by
  unfold makeDir at h
  cases hlocate : disk.locate path with
  | error e => rw [hlocate] at h; contradiction
  | ok spot =>
    rw [hlocate] at h
    cases spot with
    | node place node => contradiction
    | vacant place =>
      obtain rfl := Except.ok.inj h
      obtain ⟨htarget, hnone⟩ := locate_eq_vacant_iff.mp hlocate
      exact ⟨place, htarget, hnone, sets_put_of_target? htarget (by simp [hnone]) (.dir []) rfl⟩

theorem createNew_eq_ok (h : disk.createNew path = .ok disk') :
    ∃ place, disk.target? path = .ok place ∧ disk.thing? place = none ∧
      Path.endsInSlash path = false ∧ Sets disk disk' place (some (.file (.text "") fresh)) := by
  unfold createNew at h
  cases hlocate : disk.locate path with
  | error e => rw [hlocate] at h; contradiction
  | ok spot =>
    rw [hlocate] at h
    cases spot with
    | node place node => contradiction
    | vacant place =>
      change (if Path.endsInSlash path then _ else _) = _ at h
      split at h
      · contradiction
      next hslash =>
        obtain rfl := Except.ok.inj h
        obtain ⟨htarget, hnone⟩ := locate_eq_vacant_iff.mp hlocate
        exact ⟨place, htarget, hnone, Bool.eq_false_iff.mpr hslash,
          sets_put_of_target? htarget (by simp [hnone]) (.file (.text "") fresh) trivial⟩

theorem writeContent_eq_ok {content : Content} {seconds : Option Int}
    (h : disk.writeContent path content seconds = .ok disk') :
    ∃ place, disk.target? path = .ok place ∧
      Sets disk disk' place (some (.file content (seconds.map elapsed))) := by
  unfold writeContent locateForWriting at h
  cases hlocate : disk.locate path with
  | error e => rw [hlocate] at h; contradiction
  | ok spot =>
    rw [hlocate] at h
    cases hslash : Path.endsInSlash path with
    | true =>
      rw [hslash] at h
      rcases spot with ⟨_, _ | _⟩ | _ <;> contradiction
    | false =>
      rw [hslash] at h
      rcases spot with ⟨place, _ | ⟨old, _⟩⟩ | place
      · contradiction
      · obtain rfl := Except.ok.inj h
        obtain ⟨htarget, hfile, -⟩ := locate_eq_file_iff.mp hlocate
        exact ⟨place, htarget,
          sets_put_of_target? htarget (by simp [hfile])
            (.file content (seconds.map elapsed)) trivial⟩
      · obtain rfl := Except.ok.inj h
        obtain ⟨htarget, hnone⟩ := locate_eq_vacant_iff.mp hlocate
        exact ⟨place, htarget,
          sets_put_of_target? htarget (by simp [hnone])
            (.file content (seconds.map elapsed)) trivial⟩

/-- What is written to a path is read from it. -/
theorem read_of_writeContent {content : Content} {seconds : Option Int}
    (h : disk.writeContent path content seconds = .ok disk')
    (hslash : Path.endsInSlash path = false) :
    disk'.read path = .ok content := by
  obtain ⟨place, htarget, hsets⟩ := writeContent_eq_ok h
  refine read_eq_ok_iff.mpr ⟨place, hsets.keepsDirs.target? htarget, ?_, hslash⟩
  rw [hsets.content?_eq, Function.update_self]
  rfl

theorem remove_eq_ok (h : disk.remove path = .ok disk') :
    ∃ place content, disk.target? path = .ok place ∧ disk.content? place = some content ∧
      Sets disk disk' place none := by
  unfold remove at h
  cases hlocate : disk.locate path with
  | error e => rw [hlocate] at h; contradiction
  | ok spot =>
    rw [hlocate] at h
    rcases spot with ⟨place, _ | ⟨content, age⟩⟩ | place
    · contradiction
    · obtain rfl := Except.ok.inj h
      obtain ⟨htarget, hfile, -⟩ := locate_eq_file_iff.mp hlocate
      exact ⟨place, content, htarget, by simp [content?, hfile, Thing.content?],
        sets_drop_of_target? htarget (by simp [hfile])⟩
    · contradiction

/-- A file that a path without a slash at its end leads to can be removed. -/
theorem exists_remove_eq_ok {place : List String} {content : Content}
    (htarget : disk.target? path = .ok place) (hcontent : disk.content? place = some content)
    (hslash : Path.endsInSlash path = false) :
    ∃ disk', disk.remove path = .ok disk' ∧ Sets disk disk' place none := by
  obtain ⟨file, hthing, hfile⟩ := Option.bind_eq_some_iff.mp hcontent
  cases file with
  | dir => contradiction
  | file old age =>
    have hremove : disk.remove path = .ok (disk.drop place) := by
      rw [remove, locate_eq_file_iff.mpr ⟨htarget, hthing, hslash⟩]
      rfl
    exact ⟨_, hremove, sets_drop_of_target? htarget (by simp [hthing])⟩

/-- A file that is moved stands at its new place and no longer at the old one. -/
theorem rename_eq_ok {old new : String} (h : disk.rename old new = .ok disk') :
    ∃ source place content age mid, disk.target? old = .ok source ∧
      disk.thing? source = some (.file content age) ∧ disk.target? new = .ok place ∧
      Path.endsInSlash new = false ∧ endsInDots new = false ∧
      Sets disk mid source none ∧ Sets mid disk' place (some (.file content age)) := by
  unfold rename at h
  cases hold : disk.locate old with
  | error e => rw [hold] at h; contradiction
  | ok spot =>
    rw [hold] at h
    rcases spot with ⟨source, _ | ⟨content, age⟩⟩ | source
    · contradiction
    · obtain ⟨hsource, hfile, -⟩ := locate_eq_file_iff.mp hold
      have hmid : Sets disk (disk.drop source) source none :=
        sets_drop_of_target? hsource (by simp [hfile])
      have hput {place : List String} (htarget : disk.target? new = .ok place)
          (hplace : disk.thing? place ≠ some .dir) :
          Sets (disk.drop source)
            (((disk.drop source).drop place).put place (.file content age)) place
            (some (.file content age)) :=
        sets_replace_of_target? (hmid.keepsDirs.target? htarget)
          (hmid.thing?_ne_dir nofun hplace) (.file content age) trivial
      -- The checks of the new path come one after the other; two cases pass them all.
      change (if new.isEmpty then _ else _) = _ at h
      split at h
      · contradiction
      cases hnew : disk.locate new with
      | error e => rw [hnew] at h; contradiction
      | ok target =>
        rw [hnew] at h
        change (if endsInDots new then _ else _) = _ at h
        split at h
        · contradiction
        next hdots =>
        cases hslash : Path.endsInSlash new with
        | true =>
          rw [hslash] at h
          contradiction
        | false =>
          rw [hslash] at h
          rcases target with ⟨place, _ | ⟨content', age'⟩⟩ | place
          · contradiction
          · obtain rfl := Except.ok.inj h
            obtain ⟨htarget, hfile', -⟩ := locate_eq_file_iff.mp hnew
            exact ⟨_, place, content, age, _, hsource, hfile, htarget, rfl,
              Bool.eq_false_iff.mpr hdots, hmid, hput htarget (by simp [hfile'])⟩
          · obtain rfl := Except.ok.inj h
            obtain ⟨htarget, hnone⟩ := locate_eq_vacant_iff.mp hnew
            exact ⟨_, place, content, age, _, hsource, hfile, htarget, rfl,
              Bool.eq_false_iff.mpr hdots, hmid, hput htarget (by simp [hnone])⟩
    · contradiction

end Operations

end Responsive.Disk

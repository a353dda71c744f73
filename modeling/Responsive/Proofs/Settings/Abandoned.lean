import Responsive.Proofs.Settings.TempFiles

/-!
# Abandoned temporary files

Opening a document removes the temporary files beside it that nothing works on any more, and touches
nothing else on the disk: not the document, not a temporary file that may still be in use, and not
the files of another document in the same directory. The last of these is a matter of names. The
name of a temporary file begins with the name of its document and a marker, and of two names without
the marker only one can begin the name of a file in this way, even if one of them begins with the
other.

* `Abandoned.apart`: documents do not share temporary files.
* `purges_purge`, `thing?_purge_of_ne`: what is removed, and that nothing else is.
* `open_purges_own_abandoned`: what opening a document removes, and which temporary files its stores
  make.
-/

set_option autoImplicit false
set_option relaxedAutoImplicit false

namespace Responsive.Store

variable {σ α : Type}

/-- The directory at a place without the abandoned temporary files of a document, and everything
else on the disk as it was. -/
structure Purges (document : String) (entries : List DirEntry) (place : List String)
    (before after : Disk) : Prop where
  gone : ∀ entry ∈ entries, Abandoned document entry →
    after.thing? (place ++ [entry.name]) = none
  kept : ∀ other, (∀ entry ∈ entries, Abandoned document entry → other ≠ place ++ [entry.name]) →
    after.thing? other = before.thing? other

/-! ### Whose files they are -/

section Names

variable {document other : String} {entry : DirEntry}

/-- What begins the name of a temporary file is the name of its document and the marker. -/
theorem isPrefix_of_tempStem {name : List Char} (h : (tempStem document).toList <+: name) :
    document.toList ++ '.' :: "rebreaktmp".toList <+: name := by
  refine List.IsPrefix.trans ⟨['.'], ?_⟩ h
  have hmarker : tempMarker.toList = '.' :: "rebreaktmp".toList ++ ['.'] := by decide
  rw [tempStem, String.toList_append, hmarker, List.append_assoc]

/-- Documents whose names are without the marker do not share temporary files, and none of them is a
temporary file of the other. -/
theorem Abandoned.apart (h : Abandoned document entry) (hne : document ≠ other)
    (hdocument : ¬ ".rebreaktmp".toList <:+: document.toList)
    (hother : ¬ ".rebreaktmp".toList <:+: other.toList) :
    entry.name ≠ other ∧ ¬ (tempStem other).toList <+: entry.name.toList := by
  have hmarker : ".rebreaktmp".toList = '.' :: "rebreaktmp".toList := by decide
  have hoccurs {a b : List Char} (hab : a ++ '.' :: "rebreaktmp".toList <+: b) :
      ".rebreaktmp".toList <:+: b := by
    rw [hmarker]
    exact (List.infix_append' a _ []).trans (by simpa using hab.isInfix)
  have hown := isPrefix_of_tempStem h.isTemp
  constructor
  · rintro rfl
    exact hother (hoccurs hown)
  · intro hboth
    have hdot : '.' ∉ "rebreaktmp".toList := by decide
    rcases Text.eq_or_isPrefix_of_isPrefix hown (isPrefix_of_tempStem hboth) hdot hdot with
      heq | hfirst | hsecond
    · exact hne (String.toList_inj.mp heq)
    · exact hother (hoccurs hfirst)
    · exact hdocument (hoccurs hsecond)

end Names

/-! ### What is removed -/

section Removed

variable {fs : FileSystem (StateM σ)} {view : σ → Disk} {place : List String} {dir : String}

/-- Removing an entry of a directory: it is not there afterwards, or nothing is changed. -/
theorem sets_or_same_of_remove (hfs : fs.OnDisk view) {name : String} {s : σ}
    (hname : Path.IsName name) (hdir : (view s).target? dir = .ok place) :
    Disk.Sets (view s) (view ((fs.remove (Path.join dir name)).run s).2) (place ++ [name]) none ∨
      view ((fs.remove (Path.join dir name)).run s).2 = view s := by
  rcases hfs.remove (Path.join dir name) s with ⟨-, hdone⟩ | ⟨e, -, hsame⟩
  · left
    obtain ⟨found, content, hfound, -, hsets⟩ := Disk.remove_eq_ok hdone
    rwa [← Disk.eq_of_target?_join hname hdir hfound]
  · exact .inr hsame

/-- Removing entries of a directory changes nothing else. -/
theorem thing?_removeAll_cases (hfs : fs.OnDisk view) {entries : List DirEntry}
    (hnames : ∀ entry ∈ entries, Path.IsName entry.name) {s : σ}
    (hdir : (view s).target? dir = .ok place) (other : List String) :
    (view ((removeAll fs dir entries).run s).2).thing? other = (view s).thing? other ∨
      (view ((removeAll fs dir entries).run s).2).thing? other = none ∧
        ∃ entry ∈ entries, other = place ++ [entry.name] :=
  ((thing?_removeAll hfs dir entries s).2 other).imp_right fun ⟨hnone, entry, hentry, hfound⟩ ↦
    ⟨hnone, entry, hentry, Disk.eq_of_target?_join (hnames entry hentry) hdir hfound⟩

/-- An entry that can be removed is not there any more after that. -/
theorem thing?_removeAll_eq_none (hfs : fs.OnDisk view) {entries : List DirEntry}
    (hnames : ∀ entry ∈ entries, Path.IsName entry.name) {s : σ}
    (hdir : (view s).target? dir = .ok place) {entry : DirEntry} (hentry : entry ∈ entries)
    (htarget : (view s).target? (Path.join dir entry.name) = .ok (place ++ [entry.name]))
    (hleaf : (view s).thing? (place ++ [entry.name]) ≠ some .dir) :
    (view ((removeAll fs dir entries).run s).2).thing? (place ++ [entry.name]) = none := by
  induction entries generalizing s with
  | nil => exact absurd hentry List.not_mem_nil
  | cons first entries ih =>
    obtain ⟨hname, hrest⟩ := List.forall_mem_cons.mp hnames
    have hfirst := sets_or_same_of_remove hfs hname hdir
    rw [run_removeAll_cons]
    rcases List.mem_cons.mp hentry with rfl | hlater
    · -- The other removals do not bring it back.
      have hsets := hfs.sets_remove htarget (hname.endsInSlash_join dir) hleaf
      rcases thing?_removeAll_cases hfs hrest (hsets.keepsDirs.target? hdir)
        (place ++ [entry.name]) with hkept | ⟨hnone, -⟩
      · rw [hkept, hsets.thing?_self]
      · exact hnone
    · generalize ((fs.remove (Path.join dir first.name)).run s).2 = removed at hfirst ⊢
      rcases hfirst with hsets | hsame
      · refine ih hrest (hsets.keepsDirs.target? hdir) hlater (hsets.keepsDirs.target? htarget) ?_
        rw [hsets.look, Function.update_apply]
        split
        · exact nofun
        · exact hleaf
      · rw [← hsame] at hdir htarget hleaf
        exact ih hrest hdir hlater htarget hleaf

section Purge

variable {path document : String} {s : σ}

/-- Whatever is not an abandoned temporary file of the document stays as it is. -/
theorem thing?_purge_of_ne (hfs : fs.OnDisk view) (hname : Path.fileName? path = some document)
    (hproper : (view s).Proper) (hplace : (view s).target? (Path.directory path) = .ok place)
    {other : List String}
    (hother : ∀ entries, (view s).list (Path.directory path) = .ok entries →
      ∀ entry ∈ entries, Abandoned document entry → other ≠ place ++ [entry.name]) :
    (view ((purge fs path).run s).2).thing? other = (view s).thing? other := by
  rcases run_purge_cases hfs path s with hsame | ⟨document', entries, hname', hlist, hrun⟩
  · rw [hsame]
  · obtain rfl := Option.some.inj (hname.symm.trans hname')
    rw [hrun]
    rcases thing?_removeAll_cases hfs (isName_of_mem_abandoned hproper hlist) hplace other with
      hkept | ⟨-, entry, hentry, heq⟩
    · exact hkept
    · obtain ⟨hmem, habandoned⟩ := mem_abandoned_iff.mp hentry
      exact absurd heq (hother entries hlist entry hmem habandoned)

/-- If the files in the directory can be removed, the abandoned ones of the document are. -/
theorem purges_purge (hfs : fs.OnDisk view) (hname : Path.fileName? path = some document)
    (hproper : (view s).Proper) {entries : List DirEntry}
    (hlist : (view s).list (Path.directory path) = .ok entries)
    (hremovable : ∀ entry ∈ entries, entry.isFile = true →
      ∃ disk, (view s).remove (Path.join (Path.directory path) entry.name) = .ok disk)
    (hplace : (view s).target? (Path.directory path) = .ok place) :
    Purges document entries place (view s) (view ((purge fs path).run s).2) := by
  constructor
  · intro entry hmem habandoned
    have hentry := mem_abandoned_iff.mpr ⟨hmem, habandoned⟩
    have hnames := @isName_of_mem_abandoned _ hproper _ document _ hlist
    obtain ⟨disk, hremove⟩ := hremovable entry hmem habandoned.isFile
    obtain ⟨found, content, hfound, hcontent, -⟩ := Disk.remove_eq_ok hremove
    obtain rfl := Disk.eq_of_target?_join (hnames entry hentry) hplace hfound
    rw [run_purge hfs hname, hlist]
    refine thing?_removeAll_eq_none hfs hnames hplace hentry hfound fun hdir ↦ ?_
    have hnone : (view s).content? (place ++ [entry.name]) = none := by
      rw [Disk.content?, hdir]
      rfl
    exact absurd (hcontent.symm.trans hnone) (Option.some_ne_none content)
  · intro other hother
    refine thing?_purge_of_ne hfs hname hproper hplace fun entries' hlist' ↦ ?_
    obtain rfl := Except.ok.inj (hlist.symm.trans hlist')
    exact hother

end Purge

end Removed

/-- What opening a document does to the disk, whether a store comes of it or not. If its directory
can be listed and the files in it can be removed, it takes away the abandoned temporary files of the
document and changes nothing else. In any case it leaves alone what another document in the
directory is or has as temporary files, if the names of both are without the marker. The temporary
files of a store of the document stand in that directory, differ from each other and from the
document, and have names by which they are found when they are abandoned. -/
theorem open_purges_own_abandoned {fs : FileSystem (StateM σ)} {view : σ → Disk}
    (hfs : fs.OnDisk view) {path document : String} (hname : Path.fileName? path = some document)
    {s : σ} (hproper : (view s).Proper) :
    (∀ entries, (view s).list (Path.directory path) = .ok entries →
      (∀ entry ∈ entries, entry.isFile = true →
        ∃ disk, (view s).remove (Path.join (Path.directory path) entry.name) = .ok disk) →
      ∃ place, (view s).target? (Path.directory path) = .ok place ∧
        (∀ here, (view s).target? path = .ok here → here = place ++ [document]) ∧
        ∀ process create after, view ((openDocument fs process path create).run s).2 = after →
          Purges document entries place (view s) after ∧
          after.thing? (place ++ [document]) = (view s).thing? (place ++ [document])) ∧
    (∀ place, (view s).target? (Path.directory path) = .ok place →
      ∀ other, document ≠ other → ¬ ".rebreaktmp".toList <:+: document.toList →
        ¬ ".rebreaktmp".toList <:+: other.toList →
        ∀ name, name = other ∨ (tempStem other).toList <+: name.toList →
        ∀ process create after, view ((openDocument fs process path create).run s).2 = after →
          after.thing? (place ++ [name]) = (view s).thing? (place ++ [name])) ∧
    ∀ (questions : List (Ask α)) (store : Store) (process : Nat) (files : σ),
      store.path = some path → store.process = toString process →
      (tempPaths fs questions store files).Nodup ∧
      ∀ temp ∈ tempPaths fs questions store files, Path.parent? temp = Path.parent? path ∧
        ∃ name, Path.fileName? temp = some name ∧ name ≠ document ∧
          (tempStem document).toList <+: name.toList := by
  refine ⟨?_, ?_, ?_⟩
  · intro entries hlist hremovable
    obtain ⟨place, hplace, -⟩ := Disk.exists_of_list_eq_ok hlist
    refine ⟨place, hplace, fun here ↦ Disk.eq_of_target?_directory hname hplace, ?_⟩
    rintro process create after rfl
    rw [run_openDocument hfs]
    have hpurges := purges_purge hfs hname hproper hlist hremovable hplace
    refine ⟨hpurges, hpurges.kept _ fun entry hmem habandoned heq ↦ ?_⟩
    exact not_tempStem_prefix document (List.singleton_inj.mp (List.append_cancel_left heq) ▸
      habandoned.isTemp)
  · intro place hplace other hne hdocument hother name hnameOther process create after hafter
    rw [← hafter, run_openDocument hfs]
    refine thing?_purge_of_ne hfs hname hproper hplace fun _ _ entry _ habandoned heq ↦ ?_
    obtain rfl := List.singleton_inj.mp (List.append_cancel_left heq)
    obtain ⟨hapart, hapartTemp⟩ := habandoned.apart hne hdocument hother
    exact hnameOther.elim hapart hapartTemp
  · intro questions store process files hpath hprocess
    have hslash : '/' ∉ store.process.toList := hprocess ▸ not_slash_of_mem_toString process
    refine ⟨nodup_tempPaths fs questions hpath hslash files, fun temp htemp ↦ ?_⟩
    obtain ⟨k, hk⟩ := exists_tempPaths_eq fs questions hpath files
    rw [hk] at htemp
    obtain ⟨n, -, rfl⟩ := List.mem_map.mp htemp
    exact ⟨parent?_tempPath hname hslash n, _, fileName?_tempPath hslash n,
      ne_tempName hname store.process n, isPrefix_tempName hname store.process n⟩

/-! ### A directory with abandoned files -/

/-- A document, an abandoned temporary file of it, and an old temporary file of another document. -/
def litter : Disk :=
  ((({} : Disk).holding "settings.json" "" 400).holding
    "settings.json.rebreaktmp.7.1" "" 301).holding "settings.json.bak.rebreaktmp.7.1" "" 301

theorem proper_litter : litter.Proper :=
  Disk.proper_empty.of_reaches <| ((Disk.reaches_holding _ _ _ _).trans
    (Disk.reaches_holding _ _ _ _)).trans (Disk.reaches_holding _ _ _ _)

/-- What the directory lists. -/
def litterEntries : List DirEntry := [
  ⟨"settings.json", true, some 400000000001⟩,
  ⟨"settings.json.rebreaktmp.7.1", true, some 301000000001⟩,
  ⟨"settings.json.bak.rebreaktmp.7.1", true, some 301000000001⟩]

/-- The disk after opening the document. -/
def swept : Disk :=
  ((openDocument Disk.fileSystem "1" "settings.json" false).run litter).2

/-- Opening the document takes its abandoned file away and leaves the other files, and a store of it
makes its temporary file in the same directory. -/
theorem open_purges_own_abandoned_of_litter :
    litter.thing? ["settings.json.rebreaktmp.7.1"] ≠ none ∧
      swept.thing? ["settings.json.rebreaktmp.7.1"] = none ∧
      swept.thing? ["settings.json"] = litter.thing? ["settings.json"] ∧
      swept.thing? ["settings.json.bak.rebreaktmp.7.1"] =
        litter.thing? ["settings.json.bak.rebreaktmp.7.1"] ∧
      ∃ temp, tempPaths Disk.fileSystem (layoutQuestions (.text "wide")) layoutStore litter =
          [temp] ∧ Path.parent? temp = Path.parent? "settings.json" := by
  have hlist : litter.list (Path.directory "settings.json") = .ok litterEntries := by
    decide +kernel
  have hremove : ∀ entry ∈ litterEntries,
      (litter.remove (Path.join (Path.directory "settings.json") entry.name)).isOk = true := by
    decide +kernel
  have htemps : tempPaths Disk.fileSystem (layoutQuestions (.text "wide")) layoutStore litter =
      ["settings.json.rebreaktmp.1.1"] := by
    decide +kernel
  have hname : Path.fileName? "settings.json" = some "settings.json" := by decide +kernel
  have hremovable : ∀ entry ∈ litterEntries, entry.isFile = true →
      ∃ disk, litter.remove (Path.join (Path.directory "settings.json") entry.name) = .ok disk := by
    intro entry hentry _
    have hok := hremove entry hentry
    revert hok
    cases litter.remove (Path.join (Path.directory "settings.json") entry.name) with
    | ok disk => exact fun _ ↦ ⟨disk, rfl⟩
    | error e => exact fun hok ↦ absurd hok Bool.false_ne_true
  have hroot : litter.target? (Path.directory "settings.json") = .ok [] := by decide +kernel
  have hthere : litter.thing? ["settings.json.rebreaktmp.7.1"] ≠ none := by decide +kernel
  have hproper := proper_litter
  -- Nothing else is used of the disk, so it need not be computed any more.
  rw [swept]
  generalize litter = disk at hlist htemps hremovable hroot hthere hproper ⊢
  obtain ⟨hlisted, hapart, hstore⟩ :=
    open_purges_own_abandoned (α := Unit) Disk.onDisk hname hproper
  obtain ⟨place, hplace, -, hopen⟩ := hlisted litterEntries hlist hremovable
  obtain rfl := Except.ok.inj (hroot.symm.trans hplace)
  obtain ⟨hpurges, hdocument⟩ := hopen "1" false _ rfl
  have hmem : ⟨"settings.json.rebreaktmp.7.1", true, some 301000000001⟩ ∈ litterEntries :=
    List.mem_cons_of_mem _ List.mem_cons_self
  have habandoned :
      Abandoned "settings.json" ⟨"settings.json.rebreaktmp.7.1", true, some 301000000001⟩ := by
    refine ⟨rfl, by decide +kernel, fun age hage ↦ .inr ?_⟩
    obtain rfl := Option.some.inj hage
    decide
  have hother := hapart [] hroot "settings.json.bak" (by decide +kernel) (by decide +kernel)
    (by decide +kernel) "settings.json.bak.rebreaktmp.7.1" (.inr (by decide +kernel)) "1" false _
    rfl
  have hparent := (hstore (layoutQuestions (.text "wide")) layoutStore 1 disk rfl rfl).2
    "settings.json.rebreaktmp.1.1" (htemps ▸ List.mem_singleton_self _)
  exact ⟨hthere, hpurges.gone _ hmem habandoned, hdocument, hother, _, htemps, hparent.1⟩

end Responsive.Store

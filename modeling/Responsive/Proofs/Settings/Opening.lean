import Responsive.Proofs.Files.OnDisk
import Responsive.Proofs.Json.RoundTrip
import Responsive.Settings.Store

/-!
# Opening a document

Opening a document first removes abandoned temporary files beside it. The document is none of them,
so it still reads as it did, and the store gets the records that it contains. A document that a
store wrote gives the records of that store if and only if they can be read back: their numbers have
to be legible, and together with the document around them they must not nest deeper than the reader
goes.

* `Finds`, `Unopened`: the records that a document is opened with, and why it is not opened.
* `Swept`: what opening a document does to the disk.
* `contains_documentText_iff`: when a document gives back the records that it was written with.
* `read_purge`: removing abandoned files does not change what another file reads as.
* `run_openDocument_of_settled`: what opening a document answers.
-/

set_option autoImplicit false
set_option relaxedAutoImplicit false

namespace Responsive.Store

open Json

variable {σ : Type}

/-! ### Documents -/

/-- The characters of a blank document. -/
def blanks : List Char := [' ', '\t', '\n', '\r', '\x0c']

/-- The records that a document contains: none if it is blank, and else those of the object that its
text is. -/
inductive Contains : Content → Entries Json → Prop
  | blank {text : String} (h : ∀ c ∈ text.toList, c ∈ blanks) : Contains (.text text) []
  | object {text : String} {records : Entries Json} (hsome : ∃ c ∈ text.toList, c ∉ blanks)
      (h : Json.read? text = some (.object records)) : Contains (.text text) records

theorem all_isAsciiBlank_iff {text : String} :
    text.toList.all Text.isAsciiBlank = true ↔ ∀ c ∈ text.toList, c ∈ blanks := by
  simp [blanks, Text.isAsciiBlank, or_assoc]

theorem all_isAsciiBlank_eq_false_iff {text : String} :
    text.toList.all Text.isAsciiBlank = false ↔ ∃ c ∈ text.toList, c ∉ blanks := by
  rw [← Bool.not_eq_true, all_isAsciiBlank_iff]
  simp only [not_forall, exists_prop]

/-- What is read of a document is what it contains. -/
theorem parseDocument_eq_ok_iff {path : String} {content : Content} {records : Entries Json} :
    parseDocument path content = .ok records ↔ Contains content records := by
  cases content with
  | binary bytes => exact iff_of_false nofun nofun
  | text text =>
    dsimp only [parseDocument]
    constructor
    · intro h
      split at h
      next hblank =>
        obtain rfl := Except.ok.inj h
        exact .blank (all_isAsciiBlank_iff.mp hblank)
      next hblank =>
        have hsome := all_isAsciiBlank_eq_false_iff.mp (Bool.eq_false_iff.mpr hblank)
        split at h
        · contradiction
        next hread =>
          obtain rfl := Except.ok.inj h
          exact .object hsome hread
        · contradiction
    · intro h
      cases h with
      | blank hblank => rw [if_pos (all_isAsciiBlank_iff.mpr hblank)]
      | object hsome hread =>
        rw [all_isAsciiBlank_eq_false_iff.mpr hsome, hread]
        rfl

/-- A document that was written is not blank. -/
theorem exists_not_blank_documentText (records : Entries Json) :
    ∃ c ∈ (documentText records).toList, c ∉ blanks := by
  obtain ⟨s, hs⟩ := block_eq_cons '\x7b' '\x7d' 0 (prettyMembers 0 records)
  refine ⟨'\x7b', ?_, by decide⟩
  rw [documentText, String.toList_append, pretty, String.toList_ofList, prettyChars, hs]
  exact List.mem_cons_self

theorem contains_documentText_iff_read? {records found : Entries Json} :
    Contains (.text (documentText records)) found ↔
      Json.read? (documentText records) = some (.object found) := by
  have hsome := exists_not_blank_documentText records
  constructor
  · intro h
    cases h with
    | blank hblank =>
      obtain ⟨c, hc, hnot⟩ := hsome
      exact absurd (hblank c hc) hnot
    | object _ hread => exact hread
  · exact .object hsome

/-- A document gives back the records that it was written with if they are legible and do not nest
too deep, and only then. -/
theorem contains_documentText_iff {records : Entries Json} (h : (Json.object records).Ordered) :
    Contains (.text (documentText records)) records ↔
      (Json.object records).depth < depthLimit ∧ (Json.object records).Legible := by
  rw [contains_documentText_iff_read?, ← read?_pretty_eq_some_iff h]
  rfl

/-- Whatever becomes of its numbers, a document that a store wrote has the records that it was
written with, each as its own text reads. -/
theorem get?_of_contains_documentText {records found : Entries Json}
    (h : (Json.object records).Ordered) (hfound : Contains (.text (documentText records)) found)
    (name : String) :
    Entries.get? found name =
      (Entries.get? records name).bind fun v ↦ (Outline.printed v).value? (depthLimit - 1) := by
  rw [contains_documentText_iff_read?, documentText, read?_pretty h] at hfound
  exact get?_of_value?_printed_object h.1 hfound name

/-- The records of a document have their names in order and do not nest too deep. -/
theorem Contains.ordered {content : Content} {records : Entries Json}
    (h : Contains content records) :
    (Json.object records).Ordered ∧ (Json.object records).depth < depthLimit := by
  cases h with
  | blank => exact ⟨⟨Entries.ordered_nil, trivial⟩, by decide⟩
  | object _ hread => exact ordered_of_read?_eq_some hread

/-! ### Documents on a disk -/

/-- The document is missing and may be created, or it contains these records. -/
def Finds (path : String) (create : Bool) (disk : Disk) (records : Entries Json) : Prop :=
  disk.read path = .error .notFound ∧ create = true ∧ records = [] ∨
    ∃ content, disk.read path = .ok content ∧ Contains content records

/-- Why a document is not opened: it is missing and may not be created, it cannot be read, its bytes
are no text, its text is not JSON, or that is no object. -/
inductive Unopened (path : String) (create : Bool) (disk : Disk) : SettingsError → Prop
  | missing (hread : disk.read path = .error .notFound) (hcreate : create = false) :
      Unopened path create disk { cause := .notFound path }
  | unreadable {e : IoError} (hread : disk.read path = .error e) (he : e ≠ .notFound) :
      Unopened path create disk { cause := .io e, context := some s!"Read failed: {path}" }
  | binary {bytes : List UInt8} (hread : disk.read path = .ok (.binary bytes)) :
      Unopened path create disk
        { cause := .decoding .malformed
          context := some s!"Failed to parse settings document: {path}" }
  | malformed {text : String} (hread : disk.read path = .ok (.text text))
      (hsome : ∃ c ∈ text.toList, c ∉ blanks) (h : Json.read? text = none) :
      Unopened path create disk
        { cause := .decoding .malformed
          context := some s!"Failed to parse settings document: {path}" }
  | notObject {text : String} {value : Json} (hread : disk.read path = .ok (.text text))
      (h : Json.read? text = some value) (hvalue : ∀ records, value ≠ .object records) :
      Unopened path create disk
        { cause := .corrupted "top-level value is not an object", context := some path }

section Finds

variable {path process : String} {create : Bool} {disk disk' : Disk} {records : Entries Json}

namespace Finds

theorem settled (h : Finds path create disk records) : disk.Settled path :=
  h.imp And.left fun ⟨content, hread, _⟩ ↦ ⟨content, hread⟩

theorem of_read_eq (h : Finds path create disk records) (hread : disk'.read path = disk.read path) :
    Finds path create disk' records := by
  rwa [Finds, hread]

/-- A document is found as well if it may be created. -/
theorem may_create (h : Finds path create disk records) : Finds path true disk records :=
  h.imp_left fun ⟨hread, _, hrecords⟩ ↦ ⟨hread, rfl, hrecords⟩

theorem ofDocument_eq (h : Finds path create disk records) (process : String) :
    ofDocument process path create (disk.read path) =
      .ok { path := some path, process, records } := by
  rcases h with ⟨hread, rfl, rfl⟩ | ⟨content, hread, hcontains⟩
  · rw [hread]
    rfl
  · rw [hread, ofDocument, parseDocument_eq_ok_iff.mpr hcontains]
    rfl

/-- A document holds no more than one set of records. -/
theorem unique {records' : Entries Json} (h : Finds path create disk records)
    (h' : Finds path create disk records') : records = records' :=
  congrArg Store.records (Except.ok.inj ((h.ofDocument_eq "").symm.trans (h'.ofDocument_eq "")))

/-- The records of a document have their names in order and nest no deeper than the reader goes. -/
theorem ordered (h : Finds path create disk records) :
    (Json.object records).Ordered ∧ (Json.object records).depth < depthLimit := by
  rcases h with ⟨-, -, rfl⟩ | ⟨content, -, hcontains⟩
  · exact ⟨⟨Entries.ordered_nil, trivial⟩, by decide⟩
  · exact hcontains.ordered

end Finds

/-- What is found in a document that is there is what it contains. -/
theorem finds_iff_of_read {content : Content} (hread : disk.read path = .ok content) :
    Finds path create disk records ↔ Contains content records := by
  constructor
  · rintro (⟨hmissing, -⟩ | ⟨content', hcontent, hcontains⟩)
    · exact absurd (hread.symm.trans hmissing) nofun
    · obtain rfl := Except.ok.inj (hread.symm.trans hcontent)
      exact hcontains
  · exact fun hcontains ↦ .inr ⟨content, hread, hcontains⟩

/-- A store that is made of a document has its records and no definitions. -/
theorem exists_of_ofDocument_eq_ok {store : Store}
    (h : ofDocument process path create (disk.read path) = .ok store) :
    ∃ records : Entries Json, store = { path := some path, process, records } ∧
      Finds path create disk records := by
  unfold ofDocument at h
  split at h
  next content hread =>
    cases hparse : parseDocument path content with
    | error e =>
      rw [hparse] at h
      contradiction
    | ok records =>
      rw [hparse] at h
      obtain rfl := Except.ok.inj h
      exact ⟨records, rfl, .inr ⟨content, hread, parseDocument_eq_ok_iff.mp hparse⟩⟩
  next hread =>
    split at h
    next hcreate =>
      obtain rfl := Except.ok.inj h
      exact ⟨[], rfl, .inl ⟨hread, hcreate, rfl⟩⟩
    next => contradiction
  next => contradiction

/-- If no store is made of a document, there is a reason. -/
theorem unopened_of_ofDocument {e : SettingsError}
    (h : ofDocument process path create (disk.read path) = .error e) :
    Unopened path create disk e := by
  unfold ofDocument at h
  split at h
  next content hread =>
    cases content with
    | binary bytes =>
      obtain rfl := Except.error.inj h
      exact .binary hread
    | text text =>
      dsimp only [parseDocument] at h
      split at h
      · contradiction
      next hblank =>
        have hsome := all_isAsciiBlank_eq_false_iff.mp (Bool.eq_false_iff.mpr hblank)
        split at h
        next hnone =>
          obtain rfl := Except.error.inj h
          exact .malformed hread hsome hnone
        next => contradiction
        next value hnot hvalue =>
          obtain rfl := Except.error.inj h
          exact .notObject hread hvalue hnot
  next hread =>
    split at h
    next => contradiction
    next hcreate =>
      obtain rfl := Except.error.inj h
      exact .missing hread (Bool.eq_false_iff.mpr hcreate)
  next e' hne hread =>
    obtain rfl := Except.error.inj h
    exact .unreadable hread hne

end Finds

/-! ### Abandoned files -/

/-- The entry is an abandoned temporary file of a document: a file with a name of that kind that was
changed more than 300 seconds ago, or in the future, or at a time that cannot be read. -/
structure Abandoned (document : String) (entry : DirEntry) : Prop where
  isFile : entry.isFile = true
  isTemp : (tempStem document).toList <+: entry.name.toList
  isOld : ∀ age, entry.age = some age → age < 0 ∨ 300 * 1000000000 < age

section Entries

variable {document : String} {entry : DirEntry} {entries : List DirEntry}

theorem isStale_eq_true_iff {age : Option Int} :
    isStale age = true ↔ ∀ n, age = some n → n < 0 ∨ 300 * 1000000000 < n := by
  cases age with
  | none => simp [isStale]
  | some n =>
    rw [isStale, Bool.or_eq_true, decide_eq_true_iff, decide_eq_true_iff, staleAfter]
    simp

theorem mem_abandoned_iff :
    entry ∈ abandoned document entries ↔ entry ∈ entries ∧ Abandoned document entry := by
  rw [abandoned, List.mem_filter, Bool.and_eq_true, Bool.and_eq_true, List.isPrefixOf_iff_prefix,
    isStale_eq_true_iff]
  constructor
  · rintro ⟨hmem, ⟨hfile, htemp⟩, hold⟩
    exact ⟨hmem, hfile, htemp, hold⟩
  · rintro ⟨hmem, hfile, htemp, hold⟩
    exact ⟨hmem, ⟨hfile, htemp⟩, hold⟩

/-- A document does not have the name of one of its temporary files. -/
theorem not_tempStem_prefix (document : String) :
    ¬ (tempStem document).toList <+: document.toList := by
  intro hstem
  have hlength := hstem.length_le
  have hmarker : tempMarker.toList.length = 12 := by decide
  rw [tempStem, String.toList_append, List.length_append, hmarker] at hlength
  omega

end Entries

section Purge

variable {fs : FileSystem (StateM σ)} {view : σ → Disk} {path : String}

/-- Removes entries of a directory. -/
def removeAll (fs : FileSystem (StateM σ)) (dir : String) (entries : List DirEntry) :
    StateM σ PUnit :=
  entries.forM fun e ↦ discard (fs.remove (Path.join dir e.name))

theorem run_removeAll_cons (fs : FileSystem (StateM σ)) (dir : String) (entry : DirEntry)
    (entries : List DirEntry) (s : σ) :
    ((removeAll fs dir (entry :: entries)).run s).2 =
      ((removeAll fs dir entries).run ((fs.remove (Path.join dir entry.name)).run s).2).2 := rfl

/-- Removing abandoned files removes entries of the directory of the document, if that can be
listed. -/
theorem run_purge (hfs : fs.OnDisk view) {document : String}
    (hname : Path.fileName? path = some document) (s : σ) :
    ((purge fs path).run s).2 =
      match (view s).list (Path.directory path) with
      | .error _ => s
      | .ok entries =>
        ((removeAll fs (Path.directory path) (abandoned document entries)).run s).2 := by
  obtain ⟨parent, hparent, -⟩ := Path.parent?_of_fileName?_eq_some hname
  have hdir : Path.directory path = if parent.isEmpty then "." else parent := by
    rw [Path.directory, hparent, Option.getD_some]
  unfold purge
  rw [hparent, hname]
  dsimp only
  rw [← hdir]
  generalize Path.directory path = dir
  rw [StateT.run_bind, hfs.list]
  cases (view s).list dir with
  | error e => rfl
  | ok entries => rfl

/-- Removing abandoned files does nothing, or it removes entries of the directory of the
document. -/
theorem run_purge_cases (hfs : fs.OnDisk view) (path : String) (s : σ) :
    ((purge fs path).run s).2 = s ∨
      ∃ document entries, Path.fileName? path = some document ∧
        (view s).list (Path.directory path) = .ok entries ∧
        ((purge fs path).run s).2 =
          ((removeAll fs (Path.directory path) (abandoned document entries)).run s).2 := by
  cases hname : Path.fileName? path with
  | none =>
    left
    unfold purge
    rw [hname]
    cases Path.parent? path with
    | none => rfl
    | some parent => rfl
  | some document =>
    rw [run_purge hfs hname]
    cases hlist : (view s).list (Path.directory path) with
    | error e => exact .inl rfl
    | ok entries => exact .inr ⟨document, entries, rfl, rfl, rfl⟩

/-- What is listed as abandoned has a name of its own. -/
theorem isName_of_mem_abandoned {disk : Disk} (hproper : disk.Proper) {dir document : String}
    {entries : List DirEntry} (hlist : disk.list dir = .ok entries) :
    ∀ entry ∈ abandoned document entries, Path.IsName entry.name := by
  intro entry hentry
  obtain ⟨place, -, hthere⟩ := Disk.exists_of_list_eq_ok hlist
  exact hproper.isName place entry.name (hthere entry (mem_abandoned_iff.mp hentry).1)

/-- Removing entries of a directory: no directory is made or goes away, and what is not there any
more stood where one of the entries is found. -/
theorem thing?_removeAll (hfs : fs.OnDisk view) (dir : String) (entries : List DirEntry) (s : σ) :
    (view s).KeepsDirs (view ((removeAll fs dir entries).run s).2) ∧
      ∀ place, (view ((removeAll fs dir entries).run s).2).thing? place = (view s).thing? place ∨
        (view ((removeAll fs dir entries).run s).2).thing? place = none ∧
          ∃ entry ∈ entries, (view s).target? (Path.join dir entry.name) = .ok place := by
  induction entries generalizing s with
  | nil => exact ⟨.refl _, fun _ ↦ .inl rfl⟩
  | cons entry entries ih =>
    rw [run_removeAll_cons]
    obtain ⟨hdirs, hrest⟩ := ih ((fs.remove (Path.join dir entry.name)).run s).2
    rcases hfs.remove (Path.join dir entry.name) s with ⟨-, hdone⟩ | ⟨e, -, hsame⟩
    · obtain ⟨gone, content, htarget, -, hsets⟩ := Disk.remove_eq_ok hdone
      refine ⟨hsets.keepsDirs.trans hdirs, fun place ↦ ?_⟩
      rcases hrest place with hkept | ⟨hnone, next, hnext, hplace⟩
      · rw [hkept, hsets.look, Function.update_apply]
        split
        next heq => exact .inr ⟨rfl, entry, List.mem_cons_self, heq ▸ htarget⟩
        next => exact .inl rfl
      · exact .inr ⟨hnone, next, List.mem_cons_of_mem _ hnext,
          (hsets.keepsDirs_symm nofun).target? hplace⟩
    · rw [hsame] at hdirs hrest
      refine ⟨hdirs, fun place ↦ (hrest place).imp_right fun ⟨hnone, next, hnext, hplace⟩ ↦ ?_⟩
      exact ⟨hnone, next, List.mem_cons_of_mem _ hnext, hplace⟩

/-- Removing files of other names does not change what a path reads as. -/
theorem read_removeAll (hfs : fs.OnDisk view) {name : String}
    (hname : Path.fileName? path = some name) (dir : String) (entries : List DirEntry)
    (hentries : ∀ entry ∈ entries, Path.IsName entry.name ∧ entry.name ≠ name) (s : σ)
    (hsettled : (view s).Settled path) :
    (view ((removeAll fs dir entries).run s).2).read path = (view s).read path := by
  induction entries generalizing s with
  | nil => rfl
  | cons entry entries ih =>
    obtain ⟨⟨hentry, hne⟩, hrest⟩ := List.forall_mem_cons.mp hentries
    have hfirst : (view ((fs.remove (Path.join dir entry.name)).run s).2).read path =
        (view s).read path := by
      rcases hfs.remove (Path.join dir entry.name) s with ⟨-, hdone⟩ | ⟨e, -, hsame⟩
      · refine Disk.read_of_remove hdone (fun place hplace hpath ↦ ?_) hsettled
        obtain ⟨lead, -, -, rfl⟩ :=
          Disk.target?_of_parts_eq hentry (hentry.parts_join dir) hplace
        obtain ⟨lead', hlead⟩ := Disk.exists_of_fileName?_eq_some hname hpath
        exact hne (by simpa using congrArg List.getLast? hlead)
      · rw [hsame]
    have hnext : (view ((fs.remove (Path.join dir entry.name)).run s).2).Settled path := by
      rw [Disk.Settled, hfirst]
      exact hsettled
    rw [run_removeAll_cons]
    exact (ih hrest _ hnext).trans hfirst

/-- The file of a path is not named like a temporary file of a document. -/
def Apart (path file : String) : Prop :=
  ∀ document ∈ Path.fileName? path, ∃ name ∈ Path.fileName? file,
    ¬ (tempStem document).toList <+: name.toList

/-- A document is not named like its temporary files. -/
theorem Apart.refl (path : String) : Apart path path :=
  fun document hname ↦ ⟨document, hname, not_tempStem_prefix document⟩

/-- Removing abandoned files does not change what another file reads as. -/
theorem read_purge (hfs : fs.OnDisk view) {s : σ} (hproper : (view s).Proper) {file : String}
    (hapart : Apart path file) (hsettled : (view s).Settled file) :
    (view ((purge fs path).run s).2).read file = (view s).read file := by
  rcases run_purge_cases hfs path s with hsame | ⟨document, entries, hdocument, hlist, hrun⟩
  · rw [hsame]
  · obtain ⟨name, hname, hstem⟩ := hapart document hdocument
    rw [hrun]
    refine read_removeAll hfs hname _ _ (fun entry hentry ↦ ?_) s hsettled
    refine ⟨isName_of_mem_abandoned hproper hlist entry hentry, ?_⟩
    rintro rfl
    exact hstem (mem_abandoned_iff.mp hentry).2.isTemp

/-- A disk before and after the abandoned temporary files of a document were removed. Nothing but
such files is gone, and what the document reads as is the same. -/
structure Swept (path : String) (before after : Disk) : Prop where
  dirs : before.KeepsDirs after
  things : ∀ place, after.thing? place = before.thing? place ∨
    after.thing? place = none ∧ ∃ document entries entry, Path.fileName? path = some document ∧
      before.list (Path.directory path) = .ok entries ∧ entry ∈ entries ∧ Abandoned document entry ∧
      before.target? (Path.join (Path.directory path) entry.name) = .ok place
  document : before.Proper → before.Settled path → after.read path = before.read path

/-- Removing abandoned files removes nothing else. -/
theorem swept_purge (hfs : fs.OnDisk view) (path : String) (s : σ) :
    Swept path (view s) (view ((purge fs path).run s).2) := by
  have hread (hproper : (view s).Proper) (hsettled : (view s).Settled path) :=
    read_purge hfs hproper (.refl path) hsettled
  rcases run_purge_cases hfs path s with hsame | ⟨document, entries, hname, hlist, hrun⟩
  · rw [hsame]
    exact ⟨.refl _, fun _ ↦ .inl rfl, fun _ _ ↦ rfl⟩
  · rw [hrun] at hread ⊢
    obtain ⟨hdirs, hthings⟩ :=
      thing?_removeAll hfs (Path.directory path) (abandoned document entries) s
    refine ⟨hdirs, fun place ↦ (hthings place).imp_right fun ⟨hnone, entry, hentry, hplace⟩ ↦ ?_,
      hread⟩
    obtain ⟨hmem, habandoned⟩ := mem_abandoned_iff.mp hentry
    exact ⟨hnone, document, entries, entry, hname, hlist, hmem, habandoned, hplace⟩

/-- Removing abandoned files changes one place after the other. -/
theorem reaches_purge (hfs : fs.OnDisk view) (path : String) :
    FileSystem.OnDisk.Keeps view Disk.Reaches (purge fs path) := by
  have hremoved (dir : String) (entries : List DirEntry) :
      FileSystem.OnDisk.Keeps view Disk.Reaches (removeAll fs dir entries) := by
    induction entries with
    | nil => exact .pure _
    | cons entry entries ih =>
      exact .bind (fun s ↦ hfs.reaches_remove (Path.join dir entry.name) s) fun _ ↦ ih
  intro s
  rcases run_purge_cases hfs path s with hsame | ⟨document, entries, -, -, hrun⟩
  · rw [hsame]
  · rw [hrun]
    exact hremoved _ _ s

/-! ### Opening -/

/-- Opening a document reads it once the abandoned files are removed. -/
theorem run_openDocument (hfs : fs.OnDisk view) (process path : String) (create : Bool) (s : σ) :
    (openDocument fs process path create).run s =
      (ofDocument process path create ((view ((purge fs path).run s).2).read path),
        ((purge fs path).run s).2) := by
  rw [openDocument, StateT.run_bind]
  change (fs.read path >>= fun found ↦ pure (ofDocument process path create found)).run
    ((purge fs path).run s).2 = _
  rw [StateT.run_bind, hfs.read]
  rfl

/-- What opening a document answers is settled by what it reads as. -/
theorem run_openDocument_of_settled (hfs : fs.OnDisk view) (process : String) (create : Bool)
    {s : σ} (hproper : (view s).Proper) (hsettled : (view s).Settled path) :
    ((openDocument fs process path create).run s).1 =
      ofDocument process path create ((view s).read path) := by
  rw [run_openDocument hfs, read_purge hfs hproper (.refl path) hsettled]

end Purge

end Responsive.Store

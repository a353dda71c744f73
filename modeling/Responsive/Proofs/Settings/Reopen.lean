import Responsive.Proofs.Settings.Definition
import Responsive.Proofs.Settings.Ledger
import Responsive.Proofs.Settings.Opening

/-!
# Opening a document again

A store that has written its document can be found again in it exactly if its records can be read
back: the writer accepts whatever its definitions let in, but the reader goes only so deep, and the
document itself adds a level. Nothing that is asked of the store afterwards changes that, unless it
writes the document once more; a call that fails changes nothing about it either.

As long as no call has written the document, opening it again gives what it was opened with. Only a
call that failed to write a missing document can make a difference to that, since the directories
that it made may give the path another meaning.

* `Ledger.Step.written`: what a call does to what the document reads as.
* `Store.reopens_askAll_iff`: when a document can be opened again.
-/

set_option autoImplicit false
set_option relaxedAutoImplicit false

namespace Responsive

open Json

variable {σ α : Type}

/-! ### One call -/

namespace Store

/-- The call wrote the document: it stored a record, or it removed one. -/
def Ask.wrote : Ask α × Except SettingsError (Reply α) → Bool
  | (.set .., .ok _) => true
  | (.remove _, .ok (.removed existed)) => existed
  | _ => false

/-- The call failed for the files. -/
def Ask.failedToWrite : Ask α × Except SettingsError (Reply α) → Bool
  | (_, .error { cause := .io _, .. }) => true
  | _ => false

/-- What a question brings in as a record has its names in order. -/
def Ask.Ordered (question : Ask α) : Prop :=
  ∀ name value, question = .set name (.ok value) → value.Ordered

end Store

/-- What a definition lets in of a value has its names in order, if the value has. -/
theorem Definition.ordered_of_sanitize_eq_ok {d : Definition} {value clean : Json}
    (hvalue : value.Ordered) (h : d.sanitize value = .ok clean) : clean.Ordered := by
  obtain ⟨fields, record, rfl, rfl, hlets⟩ := sanitize_eq_ok_iff.mp h
  cases hlets with
  | all => exact hvalue
  | declared _ ordered mem_iff =>
    refine ⟨ordered, orderedMembers_iff.mpr fun ⟨name, field⟩ hmember ↦ ?_⟩
    have hfield := ((mem_iff name field).mp hmember).2.1
    exact orderedMembers_iff.mp hvalue.2 _ ((Entries.mem_iff_get?_eq_some hvalue.1).mpr hfield)

namespace Ledger

open Store

variable {fs : FileSystem (StateM σ)} {view : σ → Disk} {L L' : Ledger} {process path : String}
  {before after : σ} {question : Ask α} {answer : Except SettingsError (Reply α)}

/-- A record that is there after an answer was stored by the question, or it was there before and
the question stored nothing under its name. -/
theorem Answers.record_cases {reply : Reply α} (h : L.Answers question reply L') {name : String}
    {record : Json} (hrecord : L'.records name = some record) :
    (∃ value d, question = .set name (.ok value) ∧ L.definitions name = some d ∧
        d.sanitize value = .ok record) ∨
      L.records name = some record ∧ ∀ value, question ≠ .set name (.ok value) := by
  cases h with
  | @set other value clean d hd hclean =>
    change Function.update L.records other (some clean) name = some record at hrecord
    rw [Function.update_apply] at hrecord
    split at hrecord
    next hname =>
      subst hname
      obtain rfl := Option.some.inj hrecord
      exact .inl ⟨value, d, rfl, hd, hclean⟩
    next hname =>
      refine .inr ⟨hrecord, fun _ hset ↦ ?_⟩
      cases hset
      exact hname rfl
  | remove other =>
    change Function.update L.records other none name = some record at hrecord
    rw [Function.update_apply] at hrecord
    split at hrecord
    · contradiction
    · exact .inr ⟨hrecord, nofun⟩
  | _ => exact .inr ⟨hrecord, nofun⟩

/-- An answer that writes nothing changes no record. -/
theorem Answers.records_of_not_writes {reply : Reply α} (h : L.Answers question reply L')
    (hquiet : ¬ L.Writes question) : L'.records = L.records := by
  cases h with
  | set => exact absurd trivial hquiet
  | remove name =>
    have hnone : L.records name = none := Decidable.not_not.mp hquiet
    change Function.update L.records name none = L.records
    rw [← hnone, Function.update_eq_self]
  | _ => rfl

theorem wrote_error (question : Ask α) (e : SettingsError) :
    Ask.wrote (question, .error e) = false := by
  cases question <;> rfl

theorem Answers.wrote_iff {reply : Reply α} (h : L.Answers question reply L') :
    Ask.wrote (question, .ok reply) = true ↔ L.Writes question := by
  cases h with
  | set => exact ⟨fun _ ↦ trivial, fun _ ↦ rfl⟩
  | remove name =>
    change (L.records name).isSome = true ↔ L.records name ≠ none
    exact Option.isSome_iff_ne_none
  | _ => exact ⟨fun hwrote ↦ absurd hwrote Bool.false_ne_true, False.elim⟩

/-- What a document reads as after a call: the records of the ledger if the call wrote it, and else
what it read as before, unless there was no document and the call failed to write one. -/
theorem Step.written (h : L.Step fs view process before question answer L' after)
    (hpath : L.path = some path) :
    (Ask.wrote (question, answer) = true →
        ∃ text, (view after).read path = .ok (.text text) ∧ L'.IsText text) ∧
      (Ask.wrote (question, answer) = false → L'.records = L.records ∧
        (∀ content, (view before).read path = .ok content → (view after).read path = .ok content) ∧
        (Ask.failedToWrite (question, answer) = false → view after = view before)) := by
  cases h with
  | answered h hquiet =>
    have hnot : ¬ L.Writes question := hquiet.resolve_left (by rw [hpath]; exact nofun)
    exact ⟨fun hwrote ↦ absurd (h.wrote_iff.mp hwrote) hnot,
      fun _ ↦ ⟨h.records_of_not_writes hnot, fun _ ↦ id, fun _ ↦ rfl⟩⟩
  | saved h hwrites hpath' htext _ hfiles =>
    obtain rfl := Option.some.inj (hpath.symm.trans hpath')
    exact ⟨fun _ ↦ ⟨_, hfiles.document, htext⟩,
      fun hnot ↦ absurd ((h.wrote_iff.mpr hwrites).symm.trans hnot) nofun⟩
  | refused h =>
    refine ⟨fun hwrote ↦ ?_, fun _ ↦ ⟨rfl, fun _ ↦ id, fun _ ↦ rfl⟩⟩
    exact absurd ((wrote_error question _).symm.trans hwrote) nofun
  | failed _ _ hpath' _ _ hfiles =>
    obtain rfl := Option.some.inj (hpath.symm.trans hpath')
    refine ⟨fun hwrote ↦ ?_, fun _ ↦ ⟨rfl, fun content hread ↦ ?_, nofun⟩⟩
    · exact absurd ((wrote_error question _).symm.trans hwrote) nofun
    · obtain ⟨place, hplace, hcontent, hslash⟩ := Disk.read_eq_ok_iff.mp hread
      have hafter := hfiles.dirs.target? hplace
      exact Disk.read_eq_ok_iff.mpr
        ⟨place, hafter, (hfiles.document place hafter).trans hcontent, hslash⟩

/-- All records of the ledger have their names in order. -/
def RecordsOrdered (L : Ledger) : Prop :=
  ∀ name record, L.records name = some record → record.Ordered

theorem Answers.recordsOrdered {reply : Reply α} (h : L.Answers question reply L')
    (hquestion : question.Ordered) (hL : L.RecordsOrdered) : L'.RecordsOrdered := by
  intro name record hrecord
  rcases h.record_cases hrecord with ⟨value, d, hset, -, hclean⟩ | ⟨hold, -⟩
  · exact Definition.ordered_of_sanitize_eq_ok (hquestion _ _ hset) hclean
  · exact hL name record hold

theorem Step.recordsOrdered (h : L.Step fs view process before question answer L' after)
    (hquestion : question.Ordered) (hL : L.RecordsOrdered) : L'.RecordsOrdered := by
  cases h with
  | answered h => exact h.recordsOrdered hquestion hL
  | saved h => exact h.recordsOrdered hquestion hL
  | refused => exact hL
  | failed => exact hL

end Ledger

namespace FileSystem.OnDisk

variable {fs : FileSystem (StateM σ)} {view : σ → Disk}

/-- What the changes of single places keep is kept. -/
theorem keeps_of_changes (hfs : fs.OnDisk view) {Q : Disk → Prop}
    (hchanges : ∀ disk disk', Q disk → disk.Reaches disk' → Q disk') :
    fs.Keeps fun s ↦ Q (view s) where
  makeDirs path s h :=
    hchanges _ _ h (hfs.keeps_makeDirs (fun _ _ _ ↦ Disk.reaches_makeDir) path s)
  createNew path s h :=
    hchanges _ _ h (keeps_of_does (hfs.createNew path) (fun _ _ ↦ Disk.reaches_createNew) s)
  write path text s h := hchanges _ _ h (hfs.reaches_write path text s)
  sync path s h := by rwa [hfs.sync path s]
  rename old new s h :=
    hchanges _ _ h (keeps_of_does (hfs.rename old new) (fun _ _ ↦ Disk.reaches_rename) s)
  remove path s h := hchanges _ _ h (hfs.reaches_remove path s)

theorem keeps_proper (hfs : fs.OnDisk view) : fs.Keeps fun s ↦ (view s).Proper :=
  hfs.keeps_of_changes fun _ _ ↦ Disk.Proper.of_reaches

end FileSystem.OnDisk

namespace Store

variable {fs : FileSystem (StateM σ)} {view : σ → Disk} {path : String}

/-! ### Calls one after the other -/

/-- A question keeps what lasts. -/
theorem Preserves.ask {P : Store → σ → Prop} (hlasting : Lasting fs P) (question : Ask α) :
    Preserves P (Store.ask fs question) := by
  cases question with
  | register d =>
    intro store s hstore
    rw [Store.ask, outcome_get_bind, register]
    split
    · exact hstore
    · exact hlasting.memory store _ store.records s hstore
  | set name value => exact .bind (.setEncoded hlasting name value) fun _ ↦ .pure _
  | remove name => exact .bind (.remove hlasting name) fun existed ↦ .pure _
  | get decoder name =>
    refine .get_bind fun store ↦ ?_
    cases store.get? decoder name with
    | ok found => exact .pure _
    | error e => exact .throw e
  | getOrDefault decoder name =>
    refine .get_bind fun store ↦ ?_
    cases store.getOrDefault decoder name with
    | ok a => exact .pure _
    | error e => exact .throw e
  | describe name => exact fun _ _ h ↦ h
  | registered => exact fun _ _ h ↦ h

/-- What lasts is kept by any questions. -/
theorem Lasting.askAll {P : Store → σ → Prop} (h : Lasting fs P) (questions : List (Ask α))
    {store : Store} {s : σ} (hstore : P store s) :
    P (((Store.askAll fs questions).run store).run s).1.2
      (((Store.askAll fs questions).run store).run s).2 := by
  induction questions generalizing store s with
  | nil => exact hstore
  | cons question questions ih => exact ih (Preserves.ask h question store s hstore)

/-- A store at work on a document. -/
structure Tends (path : String) (store : Store) (disk : Disk) : Prop where
  path : store.path = some path
  not_slash : '/' ∉ store.process.toList
  ordered : store.Ordered
  records : store.ledger.RecordsOrdered
  proper : disk.Proper

namespace Tends

variable {store : Store} {disk : Disk}

theorem object_ordered (h : Tends path store disk) : (Json.object store.records).Ordered := by
  refine ⟨h.ordered.records, orderedMembers_iff.mpr fun member hmember ↦ ?_⟩
  exact h.records member.1 member.2 ((Entries.mem_iff_get?_eq_some h.ordered.records).mp hmember)

theorem ask (hfs : fs.OnDisk view) {s : σ} (h : Tends path store (view s)) {question : Ask α}
    (hquestion : question.Ordered) :
    Tends path (outcome (Store.ask fs question) store s).1.2
      (view (outcome (Store.ask fs question) store s).2) := by
  have hfollows := follows_ask hfs h.ordered h.not_slash question s
  exact ⟨hfollows.path.trans h.path, hfollows.process ▸ h.not_slash, hfollows.ordered,
    hfollows.step.recordsOrdered hquestion h.records,
    Preserves.ask (.of_keeps hfs.keeps_proper) question store s h.proper⟩

end Tends

/-- What calls did to the document of a store, before and after which the store and the files are
given. -/
structure Served (path : String) (store : Store) (before : Disk)
    (calls : List (Ask α × Except SettingsError (Reply α))) (store' : Store) (after : Disk) :
    Prop where
  tends : Tends path store' after
  written : (∃ call ∈ calls, Ask.wrote call = true) →
    after.read path = .ok (.text (documentText store'.records))
  unwritten : (∀ call ∈ calls, Ask.wrote call = false) → store'.records = store.records ∧
    (∀ content, before.read path = .ok content → after.read path = .ok content) ∧
    ((∀ call ∈ calls, Ask.failedToWrite call = false) → after = before)

/-- One call. -/
theorem Tends.served (hfs : fs.OnDisk view) {store : Store} {s : σ}
    (h : Tends path store (view s)) {question : Ask α} (hquestion : question.Ordered) :
    Served path store (view s) [(question, (outcome (Store.ask fs question) store s).1.1)]
      (outcome (Store.ask fs question) store s).1.2
      (view (outcome (Store.ask fs question) store s).2) := by
  have hfollows := follows_ask hfs h.ordered h.not_slash question s
  have htends := h.ask hfs hquestion
  obtain ⟨hwrote, hnot⟩ := hfollows.step.written h.path
  refine ⟨htends, fun hcall ↦ ?_, fun hcall ↦ ?_⟩
  · obtain ⟨call, hmem, hcall⟩ := hcall
    obtain rfl := List.mem_singleton.mp hmem
    obtain ⟨text, hread, entries, hentries, hget, rfl⟩ := hwrote hcall
    have hrecords : entries = (outcome (Store.ask fs question) store s).1.2.records :=
      Entries.ext_get? hentries htends.ordered.records fun name ↦ congrFun hget name
    rw [← hrecords]
    exact hread
  · obtain ⟨hrecords, hread, hsame⟩ := hnot (hcall _ (List.mem_singleton_self _))
    exact ⟨Entries.ext_get? htends.ordered.records h.ordered.records fun name ↦
        congrFun hrecords name, hread, fun hfailed ↦ hsame (hfailed _ (List.mem_singleton_self _))⟩

theorem Tends.served_nil {store : Store} {disk : Disk} (h : Tends path store disk) :
    Served path store disk ([] : List (Ask α × Except SettingsError (Reply α))) store disk where
  tends := h
  written := fun ⟨_, hmem, _⟩ ↦ absurd hmem List.not_mem_nil
  unwritten _ := ⟨rfl, fun _ ↦ id, fun _ ↦ rfl⟩

theorem Served.append {store store' store'' : Store} {before middle after : Disk}
    {calls calls' : List (Ask α × Except SettingsError (Reply α))}
    (h : Served path store before calls store' middle)
    (h' : Served path store' middle calls' store'' after) :
    Served path store before (calls ++ calls') store'' after := by
  have hforall {p : Ask α × Except SettingsError (Reply α) → Prop}
      (hp : ∀ call ∈ calls ++ calls', p call) :
      (∀ call ∈ calls, p call) ∧ ∀ call ∈ calls', p call :=
    List.forall_mem_append.mp hp
  refine ⟨h'.tends, fun ⟨call, hmem, hwrote⟩ ↦ ?_, fun hnot ↦ ?_⟩
  · by_cases hlater : ∃ call ∈ calls', Ask.wrote call = true
    · exact h'.written hlater
    · -- The last call that wrote the document is among the first ones.
      have hquiet : ∀ call ∈ calls', Ask.wrote call = false :=
        fun call hcall ↦ Bool.eq_false_iff.mpr fun hwrote ↦ hlater ⟨call, hcall, hwrote⟩
      have hfirst := (List.mem_append.mp hmem).resolve_right fun hcall ↦
        Bool.eq_false_iff.mp (hquiet call hcall) hwrote
      obtain ⟨hrecords, hread, -⟩ := h'.unwritten hquiet
      rw [hrecords]
      exact hread _ (h.written ⟨call, hfirst, hwrote⟩)
  · obtain ⟨hfirst, hlater⟩ := hforall hnot
    obtain ⟨hrecords, hread, hsame⟩ := h.unwritten hfirst
    obtain ⟨hrecords', hread', hsame'⟩ := h'.unwritten hlater
    refine ⟨hrecords'.trans hrecords,
      fun content hcontent ↦ hread' content (hread content hcontent),
      fun hfailed ↦ ?_⟩
    obtain ⟨hfailed, hfailed'⟩ := hforall hfailed
    exact (hsame' hfailed').trans (hsame hfailed)

/-- Calls one after the other. -/
theorem Tends.served_askAll (hfs : fs.OnDisk view) {store : Store} {s : σ}
    (h : Tends path store (view s)) {questions : List (Ask α)}
    (hquestions : ∀ question ∈ questions, question.Ordered) :
    Served path store (view s) (((askAll fs questions).run store).run s).1.1
      (((askAll fs questions).run store).run s).1.2
      (view (((askAll fs questions).run store).run s).2) := by
  induction questions generalizing store s with
  | nil => exact h.served_nil
  | cons question questions ih =>
    obtain ⟨hquestion, hrest⟩ := List.forall_mem_cons.mp hquestions
    have hfirst := h.served hfs hquestion
    exact hfirst.append (ih hfirst.tends hrest)

/-! ### Opening again -/

/-- Opening the document again gives a store with the same records. -/
def Reopens (fs : FileSystem (StateM σ)) (path : String) (store : Store) (s : σ) : Prop :=
  ∀ process, ∃ again, ((openDocument fs process path true).run s).1 = .ok again ∧
    ∀ name, again.record? name = store.record? name

section Reopens

variable {store : Store} {s : σ}

theorem Tends.reopens_of_finds (hfs : fs.OnDisk view) (h : Tends path store (view s))
    (hfinds : Finds path true (view s) store.records) : Reopens fs path store s := by
  intro process
  refine ⟨{ path := some path, process, records := store.records }, ?_, fun _ ↦ rfl⟩
  rw [run_openDocument_of_settled hfs process true h.proper hfinds.settled, hfinds.ofDocument_eq]

/-- A document that a store wrote can be opened again if its records can be read back, and only
then. -/
theorem Tends.reopens_iff_of_written (hfs : fs.OnDisk view) (h : Tends path store (view s))
    (hread : (view s).read path = .ok (.text (documentText store.records))) :
    Reopens fs path store s ↔ (Json.object store.records).depth < depthLimit ∧
      (Json.object store.records).Legible := by
  rw [← contains_documentText_iff h.object_ordered, ← finds_iff_of_read hread]
  refine ⟨fun hreopens ↦ ?_, h.reopens_of_finds hfs⟩
  obtain ⟨again, hopen, hsame⟩ := hreopens ""
  rw [run_openDocument_of_settled hfs "" true h.proper (.inr ⟨_, hread⟩)] at hopen
  obtain ⟨records, rfl, hfinds⟩ := exists_of_ofDocument_eq_ok hopen
  obtain rfl : records = store.records :=
    Entries.ext_get? hfinds.ordered.1.1 h.ordered.records hsame
  exact hfinds

end Reopens

/-- What opening a document gives is at work on it, with the records that are found in it. -/
theorem exists_tends_of_openDocument (hfs : fs.OnDisk view) {process : String}
    (hprocess : '/' ∉ process.toList) {create : Bool} {store : Store} {s s' : σ}
    (hproper : (view s).Proper)
    (h : (openDocument fs process path create).run s = (.ok store, s')) :
    Tends path store (view s') ∧ Finds path create (view s') store.records := by
  rw [run_openDocument hfs] at h
  obtain ⟨hstore, rfl⟩ := Prod.mk.inj h
  obtain ⟨records, rfl, hfinds⟩ := exists_of_ofDocument_eq_ok hstore
  obtain ⟨hordered, hmembers⟩ := hfinds.ordered.1
  refine ⟨⟨rfl, hprocess, ⟨Entries.ordered_nil, hordered⟩, fun name record hrecord ↦ ?_,
    hproper.of_reaches (reaches_purge hfs path s)⟩, hfinds⟩
  exact orderedMembers_iff.mp hmembers _ ((Entries.mem_iff_get?_eq_some hordered).mpr hrecord)

/-- When the document of a store can be opened again, after any calls and whatever of them failed:
once a call has written it, if the records nest less deep than the reader goes and all their numbers
are read back, and only then; before that always, unless a call failed to write a document that was
missing. -/
theorem reopens_askAll_iff (process : Nat) {create : Bool} {files opened files' : FlakyDisk}
    {store store' : Store} {questions : List (Ask α)}
    {calls : List (Ask α × Except SettingsError (Reply α))} (hproper : files.disk.Proper)
    (hopen : (openDocument FlakyDisk.fileSystem (toString process) path create).run files =
      (.ok store, opened))
    (hquestions : ∀ question ∈ questions, question.Ordered)
    (hcalls : ((askAll FlakyDisk.fileSystem questions).run store).run opened =
      ((calls, store'), files')) :
    ((∃ call ∈ calls, Ask.wrote call = true) →
      (Reopens FlakyDisk.fileSystem path store' files' ↔
        (Json.object store'.records).depth < depthLimit ∧
          (Json.object store'.records).Legible)) ∧
    ((∀ call ∈ calls, Ask.wrote call = false) →
      (∃ content, opened.disk.read path = .ok content) ∨
        (∀ call ∈ calls, Ask.failedToWrite call = false) →
      Reopens FlakyDisk.fileSystem path store' files') := by
  have hfs := FlakyDisk.onDisk
  obtain ⟨htends, hfinds⟩ :=
    exists_tends_of_openDocument hfs (not_slash_of_mem_toString process) hproper hopen
  have hserved := htends.served_askAll hfs hquestions
  rw [hcalls] at hserved
  refine ⟨fun hwrote ↦ hserved.tends.reopens_iff_of_written hfs (hserved.written hwrote),
    fun hnot hcondition ↦ ?_⟩
  obtain ⟨hrecords, hread, hsame⟩ := hserved.unwritten hnot
  dsimp only at hrecords hread hsame
  -- The document reads as it did when it was opened.
  have hsame : files'.disk.read path = opened.disk.read path := by
    rcases hcondition with ⟨content, hcontent⟩ | hfailed
    · rw [hread content hcontent, hcontent]
    · rw [hsame hfailed]
  rw [← hrecords] at hfinds
  exact hserved.tends.reopens_of_finds hfs (hfinds.may_create.of_read_eq hsame)

/-! ### A setting that takes any object -/

/-- An array in an array and so on, `n` times. -/
def nested : Nat → Json
  | 0 => .array []
  | n + 1 => .array [nested n]

theorem depth_nested (n : Nat) : (nested n).depth = n + 1 := by
  induction n with
  | zero => rfl
  | succ n ih => rw [nested, depth, itemsDepth, ih]; rfl

theorem ordered_nested (n : Nat) : (nested n).Ordered := by
  induction n with
  | zero => trivial
  | succ n ih => exact ⟨ih, trivial⟩

theorem Ask.wrote_set_ok (name : String) (value : Json) (answer : Except SettingsError (Reply α)) :
    Ask.wrote (.set name (.ok value), answer) = answer.isOk := by
  cases answer <;> rfl

/-- A question that stores a value does what storing it does. -/
theorem outcome_ask_set (fs : FileSystem (StateM σ)) (name : String) (value : Json) (store : Store)
    (s : σ) :
    outcome (ask fs (.set name (.ok value) : Ask α)) store s =
      (((outcome (set fs name value) store s).1.1.map fun _ ↦ .done,
        (outcome (set fs name value) store s).1.2), (outcome (set fs name value) store s).2) := by
  rw [ask, setEncoded, outcome_bind]
  rcases outcome (set fs name value) store s with ⟨⟨_ | _, _⟩, _⟩ <;> rfl

/-- What is stored by a question: what its definition lets in. -/
theorem records_of_ask_set (fs : FileSystem (StateM σ)) {name : String} {value : Json}
    {store : Store} {s : σ}
    (h : Ask.wrote (.set name (.ok value),
      (outcome (ask fs (.set name (.ok value) : Ask α)) store s).1.1) = true) :
    ∃ d clean, store.describe? name = some d ∧ d.sanitize value = .ok clean ∧
      (outcome (ask fs (.set name (.ok value) : Ask α)) store s).1.2.records =
        Entries.insert name clean store.records := by
  have hset := (outcome_set fs name value store s).2
  rw [outcome_ask_set] at h ⊢
  revert h hset
  rcases outcome (set fs name value) store s with ⟨⟨e | _, kept⟩, s'⟩
  · exact fun h ↦ absurd h Bool.false_ne_true
  · exact fun _ hset ↦ hset

/-- Two questions one after the other. -/
theorem run_askAll_pair (fs : FileSystem (StateM σ)) (first second : Ask α) (store : Store)
    (s : σ) :
    ((askAll fs [first, second]).run store).run s =
      let one := outcome (ask fs first) store s
      let two := outcome (ask fs second) one.1.2 one.2
      (([(first, one.1.1), (second, two.1.1)], two.1.2), two.2) := rfl

/-- A setting that takes any object. -/
def layout : Definition where
  name := "layout"
  description := ""

/-- Defines the setting, and stores a value in it. -/
def layoutQuestions (rows : Json) : List (Ask Unit) :=
  [.register layout, .set "layout" (.ok (.object [("rows", rows)]))]

theorem ordered_layoutQuestions {rows : Json} (h : rows.Ordered) :
    ∀ question ∈ layoutQuestions rows, question.Ordered := by
  rintro question hmem name value rfl
  simp only [layoutQuestions, List.mem_cons, List.not_mem_nil, or_false, reduceCtorEq,
    false_or] at hmem
  obtain ⟨-, hvalue⟩ := Ask.set.inj hmem
  obtain rfl := Except.ok.inj hvalue
  exact ⟨List.pairwise_singleton _ _, h, trivial⟩

/-- A store of a document on an empty disk. -/
def layoutStore : Store where
  path := some "settings.json"
  process := toString 1

/-- The records once the value is stored. -/
theorem records_layout (fs : FileSystem (StateM σ)) (rows : Json) (s : σ)
    (h : ∀ call ∈ (((askAll fs (layoutQuestions rows)).run layoutStore).run s).1.1,
      call.2.isOk = true) :
    (∃ call ∈ (((askAll fs (layoutQuestions rows)).run layoutStore).run s).1.1,
        Ask.wrote call = true) ∧
      (((askAll fs (layoutQuestions rows)).run layoutStore).run s).1.2.records =
        [("layout", .object [("rows", rows)])] := by
  rw [layoutQuestions, run_askAll_pair] at h ⊢
  have hok := h _ (List.mem_cons_of_mem _ (List.mem_singleton_self _))
  have hwrote := (Ask.wrote_set_ok "layout" (.object [("rows", rows)]) _).trans hok
  refine ⟨⟨_, List.mem_cons_of_mem _ (List.mem_singleton_self _), hwrote⟩, ?_⟩
  obtain ⟨d, clean, hd, hclean, hrecords⟩ := records_of_ask_set fs hwrote
  obtain rfl : layout = d := Option.some.inj hd
  obtain rfl := Except.ok.inj hclean
  exact hrecords

theorem run_openDocument_layoutStore :
    (openDocument FlakyDisk.fileSystem (toString 1) "settings.json" true).run {} =
      (.ok layoutStore, {}) := by
  have hparent : Path.parent? "settings.json" = some "" := by decide +kernel
  have hname : Path.fileName? "settings.json" = some "settings.json" := by decide +kernel
  have hlist : Disk.list {} "." = .ok [] := by decide +kernel
  have hread : Disk.read {} "settings.json" = .error .notFound := by decide +kernel
  have hpurge : ((purge FlakyDisk.fileSystem "settings.json").run {}).2 = {} := by
    unfold purge
    rw [hparent, hname]
    have hdot : (if "".isEmpty = true then "." else "") = "." := rfl
    dsimp only
    rw [hdot, StateT.run_bind, FlakyDisk.onDisk.list, hlist]
    rfl
  rw [run_openDocument FlakyDisk.onDisk, hpurge, hread]
  rfl

/-- On an empty disk the value is stored. -/
theorem exists_run_layoutQuestions {rows : Json}
    (h : ∀ call ∈
        (((askAll FlakyDisk.fileSystem (layoutQuestions rows)).run layoutStore).run {}).1.1,
      call.2.isOk = true) :
    ∃ calls store files,
      ((askAll FlakyDisk.fileSystem (layoutQuestions rows)).run layoutStore).run {} =
        ((calls, store), files) ∧ (∀ call ∈ calls, call.2.isOk = true) ∧
      (∃ call ∈ calls, Ask.wrote call = true) ∧
      store.records = [("layout", .object [("rows", rows)])] := by
  have hrecords := records_layout FlakyDisk.fileSystem rows {} h
  revert h hrecords
  rcases ((askAll FlakyDisk.fileSystem (layoutQuestions rows)).run layoutStore).run {} with
    ⟨⟨calls, store⟩, files⟩
  exact fun hok ⟨hwrote, hrecords⟩ ↦ ⟨calls, store, files, rfl, hok, hwrote, hrecords⟩

/-- A record that nests little is found again. -/
theorem reopens_of_layout :
    ∃ calls store files, ((askAll FlakyDisk.fileSystem (layoutQuestions (.text "wide"))).run
        layoutStore).run {} = ((calls, store), files) ∧
      Reopens FlakyDisk.fileSystem "settings.json" store files := by
  obtain ⟨calls, store, files, hcalls, -, hwrote, hrecords⟩ :=
    @exists_run_layoutQuestions (.text "wide") (by decide +kernel)
  have hreopens := (reopens_askAll_iff 1 Disk.proper_empty run_openDocument_layoutStore
    (@ordered_layoutQuestions (.text "wide") trivial) hcalls).1 hwrote
  refine ⟨calls, store, files, hcalls, hreopens.mpr ?_⟩
  rw [hrecords]
  exact ⟨by decide, ⟨trivial, trivial⟩, trivial⟩

/-- On an empty disk the value is stored and every call succeeds, but the document does not give the
records back when it is opened again. -/
def Loses (rows : Json) : Prop :=
  ∃ calls store files,
    ((askAll FlakyDisk.fileSystem (layoutQuestions rows)).run layoutStore).run {} =
      ((calls, store), files) ∧ (∀ call ∈ calls, call.2.isOk = true) ∧
    ¬ Reopens FlakyDisk.fileSystem "settings.json" store files

theorem loses_of_not_readable {rows : Json} (hrows : rows.Ordered)
    (h : ∀ call ∈
        (((askAll FlakyDisk.fileSystem (layoutQuestions rows)).run layoutStore).run {}).1.1,
      call.2.isOk = true)
    (hnot : ¬ ((Json.object [("layout", .object [("rows", rows)])]).depth < depthLimit ∧
      (Json.object [("layout", .object [("rows", rows)])]).Legible)) : Loses rows := by
  obtain ⟨calls, store, files, hcalls, hok, hwrote, hrecords⟩ := exists_run_layoutQuestions h
  have hfs := FlakyDisk.onDisk
  obtain ⟨htends, -⟩ := exists_tends_of_openDocument hfs (not_slash_of_mem_toString 1)
    Disk.proper_empty run_openDocument_layoutStore
  have hserved := htends.served_askAll hfs (ordered_layoutQuestions hrows)
  rw [hcalls] at hserved
  have hiff := hserved.tends.reopens_iff_of_written hfs (hserved.written hwrote)
  rw [← hrecords] at hnot
  exact ⟨calls, store, files, hcalls, hok, fun hreopens ↦ hnot (hiff.mp hreopens)⟩

/-- What `1e-30` is read as: the float below the nearest one. It is printed as
`9.999999999999999e-31`, and that is read as the nearest one. -/
def tiny : Number := .float (.finite false 5708990770823839 (-152))

/-- A number that is not read back is changed by opening the document again, and a record that nests
as deep as the reader goes makes the document unreadable, although every call succeeds. -/
theorem not_reopens_of_tiny_or_nested :
    (openDocument FlakyDisk.fileSystem (toString 1) "settings.json" true).run {} =
        (.ok layoutStore, {}) ∧
      ((Numeral.read? "1e-30".toList).bind fun found ↦ found.1.value?) = some tiny ∧
      Loses (.number tiny) ∧ Loses (nested 125) := by
  refine ⟨run_openDocument_layoutStore, by decide +kernel, ?_, ?_⟩
  · refine loses_of_not_readable trivial (by decide +kernel) fun ⟨_, hlegible⟩ ↦ ?_
    exact absurd hlegible.1.1 (by decide +kernel)
  · refine loses_of_not_readable (ordered_nested 125) (by decide +kernel) fun ⟨hdepth, _⟩ ↦ ?_
    rw [depth, membersDepth, depth, membersDepth, membersDepth, depth_nested] at hdepth
    exact absurd hdepth (by decide)

end Store

end Responsive

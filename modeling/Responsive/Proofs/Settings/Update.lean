import Responsive.Settings.Store

/-!
# What an update changes

An update of a store writes the document first and takes the records over after that. Whatever the
files do, a failed update leaves the records as they were, and no update changes a definition.

* `Preserves.persist`: writing the document changes neither records nor definitions.
* `outcome_set`: what storing a record does, whether it succeeds or not.
-/

set_option autoImplicit false
set_option relaxedAutoImplicit false

namespace Responsive.Store

variable {σ α β : Type}

/-- The result of an update, with the store and the files behind it. -/
def outcome (op : Update (StateM σ) α) (store : Store) (disk : σ) :
    (Except SettingsError α × Store) × σ :=
  (op.run.run store).run disk

theorem outcome_bind (op : Update (StateM σ) α) (next : α → Update (StateM σ) β) (store : Store)
    (disk : σ) :
    outcome (op >>= next) store disk =
      match outcome op store disk with
      | ((.ok a, store), disk) => outcome (next a) store disk
      | ((.error e, store), disk) => ((.error e, store), disk) := by
  show outcome (ExceptT.bind op next) store disk = _
  simp only [outcome, ExceptT.bind, ExceptT.mk, ExceptT.run, StateT.run, bind, StateT.bind]
  rcases op store disk with ⟨⟨e | a, store'⟩, disk'⟩
  · rfl
  · rfl

theorem outcome_get_bind (next : Store → Update (StateM σ) β) (store : Store) (disk : σ) :
    outcome (MonadState.get >>= next) store disk = outcome (next store) store disk :=
  outcome_bind MonadState.get next store disk

theorem outcome_put_bind (next : PUnit → Update (StateM σ) β) (store store' : Store) (disk : σ) :
    outcome (MonadStateOf.set store' >>= next) store disk = outcome (next ⟨⟩) store' disk :=
  outcome_bind (MonadStateOf.set store') next store disk

end Store

/-- The operations that write, but for making a new file, keep a property of the files, whether they
succeed or not. -/
structure FileSystem.KeepsOnceMade {σ : Type} (fs : FileSystem (StateM σ)) (P : σ → Prop) :
    Prop where
  makeDirs : ∀ path s, P s → P ((fs.makeDirs path).run s).2
  write : ∀ path text s, P s → P ((fs.write path text).run s).2
  sync : ∀ path s, P s → P ((fs.sync path).run s).2
  rename : ∀ old new s, P s → P ((fs.rename old new).run s).2
  remove : ∀ path s, P s → P ((fs.remove path).run s).2

/-- The operations that write keep a property of the files, whether they succeed or not. -/
structure FileSystem.Keeps {σ : Type} (fs : FileSystem (StateM σ)) (P : σ → Prop) : Prop
    extends fs.KeepsOnceMade P where
  createNew : ∀ path s, P s → P ((fs.createNew path).run s).2

/-- What does not depend on the files is kept. -/
theorem FileSystem.Keeps.of_const {σ : Type} (fs : FileSystem (StateM σ)) (p : Prop) :
    fs.Keeps fun _ ↦ p where
  makeDirs _ _ h := h
  createNew _ _ h := h
  write _ _ _ h := h
  sync _ _ h := h
  rename _ _ _ h := h
  remove _ _ h := h

namespace Store

variable {σ α β : Type}

/-- The update leads from stores and files with a property to such with it, whether it succeeds or
not. -/
def Preserves (P : Store → σ → Prop) (op : Update (StateM σ) α) : Prop :=
  ∀ store s, P store s → P (outcome op store s).1.2 (outcome op store s).2

namespace Preserves

variable {P : Store → σ → Prop} {fs : FileSystem (StateM σ)}

theorem pure (a : α) : Preserves P (Pure.pure a : Update (StateM σ) α) :=
  fun _ _ h ↦ h

theorem throw (e : SettingsError) : Preserves P (MonadExcept.throw e : Update (StateM σ) α) :=
  fun _ _ h ↦ h

theorem lift {op : StateM σ α} (hop : ∀ store s, P store s → P store (op.run s).2) :
    Preserves P (liftM op : Update (StateM σ) α) :=
  hop

theorem bind {op : Update (StateM σ) α} {next : α → Update (StateM σ) β} (hop : Preserves P op)
    (hnext : ∀ a, Preserves P (next a)) : Preserves P (op >>= next) := by
  intro store s hstore
  have hstart := hop store s hstore
  rw [outcome_bind]
  revert hstart
  rcases outcome op store s with ⟨⟨e | a, store'⟩, s'⟩
  · exact id
  · exact hnext a store' s'

theorem get_bind {next : Store → Update (StateM σ) β} (hnext : ∀ store, Preserves P (next store)) :
    Preserves P (MonadState.get >>= next) :=
  fun store s hstore ↦ hnext store store s hstore

theorem attempt (context : String) {op : StateM σ (Except IoError α)}
    (hop : ∀ store s, P store s → P store (op.run s).2) :
    Preserves P (Store.attempt context op) := by
  refine bind (lift hop) fun result ↦ ?_
  cases result with
  | ok a => exact pure a
  | error e => exact throw _

theorem moveOver (hfs : ∀ store, fs.KeepsOnceMade (P store)) (temp path : String) :
    Preserves P (Store.moveOver fs temp path) := by
  refine bind (lift fun store ↦ (hfs store).rename temp path) fun result ↦ ?_
  cases result with
  | ok _ => exact pure ()
  | error e =>
    have hremove : Preserves P
        (liftM (discard (fs.remove temp) : StateM σ PUnit) : Update (StateM σ) PUnit) :=
      lift fun store ↦ (hfs store).remove temp
    exact bind hremove fun _ ↦ throw _

/-- What is done once the new file is made. -/
theorem fill (hfs : ∀ store, fs.KeepsOnceMade (P store)) (path temp text : String) :
    Preserves P (do
      Store.attempt "Write failed" (fs.write temp text)
      Store.attempt "Hardware sync failed" (fs.sync temp)
      Store.moveOver fs temp path : Update (StateM σ) Unit) :=
  bind (attempt _ fun store ↦ (hfs store).write temp text) fun _ ↦
    bind (attempt _ fun store ↦ (hfs store).sync temp) fun _ ↦ moveOver hfs temp path

theorem replaceDocument (hfs : ∀ store, fs.Keeps (P store)) (path temp text : String) :
    Preserves P (Store.replaceDocument fs path temp text) :=
  bind (attempt _ fun store ↦ (hfs store).createNew temp) fun _ ↦
    fill (fun store ↦ (hfs store).toKeepsOnceMade) path temp text

theorem makeParent (hfs : ∀ store, fs.KeepsOnceMade (P store)) (path : String) :
    Preserves P (Store.makeParent fs path) := by
  unfold Store.makeParent
  split
  · exact pure ()
  · split
    · exact pure ()
    next parent _ _ => exact attempt _ fun store ↦ (hfs store).makeDirs parent

/-- Writing the document changes no part of a store but the number of the next file. -/
theorem persist (hfs : ∀ store, fs.Keeps (P store)) (records : Entries Json)
    (hnext : ∀ store n s, P store s → P { store with nextTemp := n } s) :
    Preserves P (Store.persist fs records) := by
  intro store s hstore
  rw [Store.persist, outcome_get_bind]
  cases hpath : store.path with
  | none => exact hstore
  | some path =>
    dsimp only
    rw [outcome_bind]
    have hkept : (outcome (Store.makeParent fs path) store s).1.2 = store :=
      makeParent (P := fun kept _ ↦ kept = store)
        (fun _ ↦ (FileSystem.Keeps.of_const fs _).toKeepsOnceMade) path store s rfl
    have hmade := makeParent (fun store ↦ (hfs store).toKeepsOnceMade) path store s hstore
    revert hkept hmade
    rcases outcome (Store.makeParent fs path) store s with ⟨⟨e | _, kept⟩, s'⟩
    · exact fun _ hmade ↦ hmade
    · rintro rfl hmade
      have hnumbered := hnext kept (kept.nextTemp + 1) s' hmade
      rw [hpath] at hnumbered
      dsimp only
      rw [outcome_put_bind]
      exact replaceDocument hfs path _ (documentText records) _ s' hnumbered

end Preserves

/-- Writing the document keeps the property, which does not depend on what a store holds in
memory. -/
structure Lasting (fs : FileSystem (StateM σ)) (P : Store → σ → Prop) : Prop where
  persist : ∀ records, Preserves P (Store.persist fs records)
  memory : ∀ store definitions records s, P store s → P { store with definitions, records } s

/-- What the file system keeps lasts. -/
theorem Lasting.of_keeps {fs : FileSystem (StateM σ)} {Q : σ → Prop} (hfs : fs.Keeps Q) :
    Lasting fs fun _ s ↦ Q s :=
  ⟨fun records ↦ .persist (fun _ ↦ hfs) records fun _ _ _ h ↦ h, fun _ _ _ _ h ↦ h⟩

namespace Preserves

variable {P : Store → σ → Prop} {fs : FileSystem (StateM σ)}

theorem commit (h : Lasting fs P) (records : Entries Json) :
    Preserves P (Store.commit fs records) :=
  bind (h.persist records) fun _ store s hstore ↦
    h.memory store store.definitions records s hstore

theorem set (h : Lasting fs P) (name : String) (value : Json) :
    Preserves P (Store.set fs name value) := by
  refine get_bind fun store ↦ ?_
  split
  · exact throw _
  · split
    · exact throw _
    · exact commit h _

theorem setEncoded (h : Lasting fs P) (name : String) (value : Except Json.DecodeError Json) :
    Preserves P (Store.setEncoded fs name value) := by
  cases value with
  | ok value => exact set h name value
  | error e => exact throw _

theorem remove (h : Lasting fs P) (name : String) : Preserves P (Store.remove fs name) := by
  refine get_bind fun store ↦ ?_
  split
  · exact pure false
  · exact bind (commit h _) fun _ ↦ pure true

end Preserves

/-- What taking over new records does: it changes no definition, and no record if it fails. -/
theorem outcome_commit (fs : FileSystem (StateM σ)) (records : Entries Json) (store : Store)
    (disk : σ) :
    (outcome (commit fs records) store disk).1.2.definitions = store.definitions ∧
      match (outcome (commit fs records) store disk).1.1 with
      | .ok () => (outcome (commit fs records) store disk).1.2.records = records
      | .error _ => (outcome (commit fs records) store disk).1.2.records = store.records := by
  have hpersist := Preserves.persist
    (P := fun store' _ ↦ store'.records = store.records ∧ store'.definitions = store.definitions)
    (fun _ ↦ .of_const fs _) records (fun _ _ _ h ↦ h) store disk ⟨rfl, rfl⟩
  unfold commit
  rw [outcome_bind]
  revert hpersist
  rcases outcome (persist fs records) store disk with ⟨⟨e | _, store'⟩, disk'⟩
  · exact fun h ↦ ⟨h.2, h.1⟩
  · exact fun h ↦ ⟨h.2, rfl⟩

/-- What storing a record does. No definition changes. If it succeeds, then the record is what its
definition lets in of the value, and if it fails, all records stay as they are. -/
theorem outcome_set (fs : FileSystem (StateM σ)) (name : String) (value : Json) (store : Store)
    (disk : σ) :
    (outcome (set fs name value) store disk).1.2.definitions = store.definitions ∧
      match (outcome (set fs name value) store disk).1.1 with
      | .ok () => ∃ d clean, store.describe? name = some d ∧ d.sanitize value = .ok clean ∧
          (outcome (set fs name value) store disk).1.2.records =
            Entries.insert name clean store.records
      | .error _ => (outcome (set fs name value) store disk).1.2.records = store.records := by
  unfold set
  rw [outcome_get_bind]
  cases hdescribe : store.describe? name with
  | none => exact ⟨rfl, rfl⟩
  | some d =>
    dsimp only
    cases hclean : d.sanitize value with
    | error e => exact ⟨rfl, rfl⟩
    | ok clean =>
      dsimp only
      have hcommit := outcome_commit fs (Entries.insert name clean store.records) store disk
      revert hcommit
      rcases outcome (commit fs (Entries.insert name clean store.records)) store disk with
        ⟨⟨e | _, store'⟩, disk'⟩
      · exact id
      · exact fun h ↦ ⟨h.1, d, clean, rfl, hclean, h.2⟩

end Responsive.Store

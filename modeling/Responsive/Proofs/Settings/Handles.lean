import Responsive.Proofs.Settings.Ledger
import Responsive.Proofs.Settings.Opening
import Responsive.Settings.Overrides

/-!
# Handles share ledgers

A program with handles of stores cannot tell them from handles of ledgers: whichever handles it
uses, clones included, in whatever order and with whatever failures of the files, each answer is
that of the one ledger behind the handle, as the calls before it left that ledger. So what is done
through one handle is neither lost nor overwritten through another, and stores of their own do not
meet.

* `Shelf.Step`, `Shelf.Run`: what handles of ledgers may do.
* `Handles.run_refines_ledgers`: handles of stores do nothing else.
-/

set_option autoImplicit false
set_option relaxedAutoImplicit false

namespace Responsive

variable {α σ : Type}

/-- Ledgers, and the ledger that each handle is for. -/
structure Shelf where
  ledgers : List Ledger := []
  handles : List Nat := []

namespace Shelf

open Handles (Event Response)

/-- The shelf with one more ledger and a handle of it. -/
def add (s : Shelf) (L : Ledger) : Shelf where
  ledgers := s.ledgers ++ [L]
  handles := s.handles ++ [s.ledgers.length]

/-- What handles may do. -/
inductive Step (fs : FileSystem (StateM σ)) (view : σ → Disk) (process : String) (s : Shelf)
    (before : σ) : Event α → Response α → Shelf → σ → Prop
  | inMemory :
      Step fs view process s before .inMemory (.handle s.handles.length)
        (s.add { path := none, definitions := fun _ ↦ none, records := fun _ ↦ none }) before
  /-- A ledger begins with the records of its document, and without definitions. -/
  | opened {path : String} {create : Bool} {records : Entries Json} {after : σ}
      (hfiles : Store.Swept path (view before) (view after))
      (h : Store.Finds path create (view after) records) :
      Step fs view process s before (.openDocument path create) (.handle s.handles.length)
        (s.add { path := some path, definitions := fun _ ↦ none, records := Entries.get? records })
        after
  | notOpened {path : String} {create : Bool} {e : SettingsError} {after : σ}
      (hfiles : Store.Swept path (view before) (view after))
      (h : Store.Unopened path create (view after) e) :
      Step fs view process s before (.openDocument path create) (.refused e) s after
  | clone {handle i : Nat} (hi : s.handles[handle]? = some i) :
      Step fs view process s before (.clone handle) (.handle s.handles.length)
        { s with handles := s.handles ++ [i] } before
  | ask {handle i : Nat} {question : Store.Ask α} {L L' : Ledger}
      {answer : Except SettingsError (Store.Reply α)} {after : σ}
      (hi : s.handles[handle]? = some i) (hL : s.ledgers[i]? = some L)
      (h : L.Step fs view process before question answer L' after) :
      Step fs view process s before (.ask handle question) (.answer answer)
        { s with ledgers := s.ledgers.set i L' } after
  | noClone {handle : Nat} (h : s.handles[handle]? = none) :
      Step fs view process s before (.clone handle) .noHandle s before
  | noHandle {handle : Nat} {question : Store.Ask α}
      (h : s.handles[handle]?.bind (s.ledgers[·]?) = none) :
      Step fs view process s before (.ask handle question) .noHandle s before

/-- What handles may do, one event after the other. -/
inductive Run (fs : FileSystem (StateM σ)) (view : σ → Disk) (process : String) :
    Shelf → σ → List (Event α × Response α) → Shelf → σ → Prop
  | nil (s : Shelf) (files : σ) : Run fs view process s files [] s files
  | cons {s s' s'' : Shelf} {files files' files'' : σ} {event : Event α} {response : Response α}
      {rest : List (Event α × Response α)}
      (first : Step fs view process s files event response s' files')
      (others : Run fs view process s' files' rest s'' files'') :
      Run fs view process s files ((event, response) :: rest) s'' files''

end Shelf

namespace Handles

variable {fs : FileSystem (StateM σ)} {view : σ → Disk} {process : String} {s : Handles σ}

/-- The ledgers behind handles. -/
def shelf (s : Handles σ) : Shelf where
  ledgers := s.stores.map Store.ledger
  handles := s.handles

/-- What the stores of a process have in common. -/
structure Belongs (process : String) (store : Store) : Prop where
  ordered : store.Ordered
  not_slash : '/' ∉ store.process.toList
  process : store.path = none ∨ store.process = process

/-- All stores behind handles are those of the process. -/
def Sound (process : String) (s : Handles σ) : Prop :=
  ∀ store ∈ s.stores, Belongs process store

/-- One event: the handles stay sound, and handles of ledgers may do the same. -/
structure Follows (fs : FileSystem (StateM σ)) (view : σ → Disk) (process : String) (s : Handles σ)
    (event : Event α) (result : Response α × Handles σ) : Prop where
  step : s.shelf.Step fs view process s.files event result.1 result.2.shelf result.2.files
  sound : result.2.Sound process

theorem Sound.addStore (hs : s.Sound process) {store : Store} (hstore : Belongs process store) :
    (s.addStore (α := α) store).2.Sound process := by
  intro other hother
  rcases List.mem_append.mp hother with hold | hnew
  · exact hs other hold
  · obtain rfl := List.mem_singleton.mp hnew
    exact hstore

theorem follows_ask (hfs : fs.OnDisk view) (hs : s.Sound process) (handle : Nat)
    (question : Store.Ask α) :
    Follows fs view process s (.ask handle question)
      (s.step fs process (.ask handle question)) := by
  rw [step]
  cases hi : s.handles[handle]? with
  | none =>
    refine ⟨.noHandle ?_, hs⟩
    rw [shelf, hi]
    rfl
  | some i =>
    dsimp only
    cases hstore : s.stores[i]? with
    | none =>
      refine ⟨.noHandle ?_, hs⟩
      rw [shelf, hi]
      simp [hstore]
    | some store =>
      have hstored := hs store (List.mem_of_getElem? hstore)
      have hfollows := Store.follows_ask hfs hstored.ordered hstored.not_slash question s.files
      rw [Store.outcome] at hfollows
      dsimp only
      -- The run stands in the goal and in what is known of it, so its result is named in both.
      revert hfollows
      rcases ((Store.ask fs question).run.run store).run s.files with ⟨⟨answer, kept⟩, files⟩
      intro hfollows
      have hL : s.shelf.ledgers[i]? = some store.ledger := by simp [shelf, hstore]
      have hstep : store.ledger.Step fs view process s.files question answer kept.ledger files :=
        hstored.process.elim (fun hpath ↦ hfollows.step.of_path_eq_none hpath)
          fun hname ↦ hname ▸ hfollows.step
      constructor
      · have hshelf : { s with stores := s.stores.set i kept, files }.shelf =
            { s.shelf with ledgers := s.shelf.ledgers.set i kept.ledger } := by
          simp [shelf, List.map_set]
        rw [hshelf]
        exact .ask hi hL hstep
      · intro other hother
        rcases List.mem_or_eq_of_mem_set hother with hold | rfl
        · exact hs other hold
        · have hprocess := hfollows.process
          have hpath := hfollows.path
          exact ⟨hfollows.ordered, hprocess ▸ hstored.not_slash,
            hpath ▸ hprocess ▸ hstored.process⟩

theorem shelf_addStore (s : Handles σ) (store : Store) :
    (s.addStore (α := α) store).2.shelf = s.shelf.add store.ledger := by
  simp [addStore, addHandle, shelf, Shelf.add]

theorem follows_openDocument (hfs : fs.OnDisk view) (hprocess : '/' ∉ process.toList)
    (hs : s.Sound process) (path : String) (create : Bool) :
    Follows fs view process s (.openDocument path create : Event α)
      (s.step fs process (.openDocument path create)) := by
  rw [step]
  have hswept := Store.swept_purge hfs path s.files
  rw [Store.run_openDocument hfs]
  generalize ((Store.purge fs path).run s.files).2 = files at hswept ⊢
  cases hdocument : Store.ofDocument process path create ((view files).read path) with
  | error e => exact ⟨.notOpened hswept (Store.unopened_of_ofDocument hdocument), hs⟩
  | ok store =>
    obtain ⟨records, rfl, hfinds⟩ := Store.exists_of_ofDocument_eq_ok hdocument
    have hstore : { s with files }.Sound process := hs
    refine ⟨?_, hstore.addStore ⟨⟨Entries.ordered_nil, hfinds.ordered.1.1⟩, hprocess, .inr rfl⟩⟩
    have hstep : s.shelf.Step fs view process s.files (.openDocument path create : Event α) _ _ _ :=
      .opened hswept hfinds
    dsimp only
    rw [shelf_addStore]
    exact hstep

/-- Whatever event it is, handles of ledgers may do the same. -/
theorem follows_step (hfs : fs.OnDisk view) (hprocess : '/' ∉ process.toList)
    (hs : s.Sound process) (event : Event α) :
    Follows fs view process s event (s.step fs process event) := by
  cases event with
  | inMemory =>
    have hempty : Belongs process .inMemory :=
      ⟨⟨Entries.ordered_nil, Entries.ordered_nil⟩, List.not_mem_nil, .inl rfl⟩
    refine ⟨?_, hs.addStore hempty⟩
    rw [step, shelf_addStore]
    exact .inMemory
  | openDocument path create => exact follows_openDocument hfs hprocess hs path create
  | clone handle =>
    rw [step]
    cases hi : s.handles[handle]? with
    | none => exact ⟨.noClone hi, hs⟩
    | some i => exact ⟨.clone hi, hs⟩
  | ask handle question => exact follows_ask hfs hs handle question

theorem run_follows (hfs : fs.OnDisk view) (hprocess : '/' ∉ process.toList)
    (hs : s.Sound process) (events : List (Event α)) :
    s.shelf.Run fs view process s.files (s.run fs process events).1
      (s.run fs process events).2.shelf (s.run fs process events).2.files := by
  induction events generalizing s with
  | nil => exact .nil _ _
  | cons event events ih =>
    have hstep := follows_step hfs hprocess hs event
    exact .cons hstep.step (ih hstep.sound)

/-- Whatever is done with any handles, in whatever order and with whatever faults of the files,
comes out as if the handles were those of ledgers. -/
theorem run_refines_ledgers (process : Nat) (files : FlakyDisk) (events : List (Event α)) :
    let s := run FlakyDisk.fileSystem (toString process) { files } events
    Shelf.Run FlakyDisk.fileSystem FlakyDisk.disk (toString process) {} files s.1 s.2.shelf
      s.2.files := by
  intro s
  have hs : Sound (toString process) { files : Handles FlakyDisk } := nofun
  exact run_follows FlakyDisk.onDisk (Store.not_slash_of_mem_toString process) hs events

/-! ### Two handles of one document -/

/-- The detail of the error in a response. -/
def Response.detail? : Response α → Option String
  | answer (.error e) | refused e => some e.cause.detail
  | _ => none

/-- The record in a response. -/
def Response.record? : Response α → Option α
  | answer (.ok (.found record)) => record
  | _ => none

/-- A disk without files. The first update takes five changes of it, and so would the second one,
but its last change is not made: the move of the temporary file. -/
def crampedFiles : FlakyDisk where
  plan := List.replicate 9 none ++ [some { error := .other "No space left on device" }]

/-- A document is made, and there are two handles of it. The setting that is defined through the one
is stored through the other, and then the other way round it is stored again and read. -/
def sharedEvents : List (Event Breakpoints) :=
  [.openDocument "site/settings.json" true, .clone 0, .ask 0 (.register overridesDefinition),
    .ask 1 (.set overridesName (.ok (Breakpoints.toJson { tablet := "900" }))),
    .ask 0 (.set overridesName (.ok (Breakpoints.toJson { tablet := "1100" }))),
    .ask 1 (.get Breakpoints.decoder overridesName)]

/-- What comes of it. -/
def sharedRun : List (Event Breakpoints × Response Breakpoints) × Handles FlakyDisk :=
  run FlakyDisk.fileSystem (toString 7) { files := crampedFiles } sharedEvents

/-- The update that fails is the only event that does, the pair of the first update is read after
it, and the document still has the text of that pair, with no temporary file beside it. -/
theorem run_refines_ledgers_of_shared :
    Shelf.Run FlakyDisk.fileSystem FlakyDisk.disk (toString 7) {} crampedFiles sharedRun.1
        sharedRun.2.shelf sharedRun.2.files ∧
      sharedRun.1.map (·.2.detail?) =
        [none, none, none, none, some "No space left on device", none] ∧
      sharedRun.1.filterMap (·.2.record?) = [{ tablet := "900" }] ∧
      sharedRun.2.files.disk.read "site/settings.json" =
        .ok (.text ("\x7b\n  \"dynamic_breakpoints\": \x7b\n" ++
          "    \"mobile\": \"\",\n    \"tablet\": \"900\"\n  \x7d\n\x7d\n")) ∧
      (sharedRun.2.files.disk.list "site").map (·.map (·.name)) = .ok ["settings.json"] := by
  refine ⟨?_, by decide +kernel, by decide +kernel, by decide +kernel, by decide +kernel⟩
  rw [sharedRun]
  exact run_refines_ledgers 7 crampedFiles sharedEvents

end Handles

end Responsive

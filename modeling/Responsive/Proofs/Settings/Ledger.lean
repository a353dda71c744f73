import Responsive.Proofs.Entries
import Responsive.Proofs.Settings.Document
import Responsive.Settings.Handles

/-!
# The ledger of a store

What a store promises can be said without lists of entries, files and temporary names: it keeps a
ledger, which gives a definition and a record to some names. What is asked of it is answered from
the ledger, or refused for a reason that is found in the ledger; only an update that the ledger
would accept can fail for another reason, and then a step of writing the document failed and the
ledger stays as it is.

The document of a store follows its ledger: an update that succeeds leaves the document with all
records of the ledger, and one that fails leaves it with what it held.

* `Ledger.Answers`, `Ledger.Refuses`: what a ledger makes of a question.
* `Ledger.Step`: what a store may do, with its ledger and with the files.
* `Store.follows_ask`: stores do nothing else, whatever fails on the way.
-/

set_option autoImplicit false
set_option relaxedAutoImplicit false

namespace Responsive

/-- A ledger: the document that it is kept in, if any, and what is known by which name. -/
structure Ledger where
  path : Option String
  definitions : String → Option Definition
  records : String → Option Json

namespace Ledger

open Json Store
open FileStep (runAll)

variable {σ α : Type}

/-- What a ledger answers to a question, and the ledger after it. -/
inductive Answers (L : Ledger) : Ask α → Reply α → Ledger → Prop
  | register {d : Definition} (h : L.definitions d.name = none) :
      Answers L (.register d) .done
        { L with definitions := Function.update L.definitions d.name (some d) }
  | set {name : String} {value clean : Json} {d : Definition} (hd : L.definitions name = some d)
      (hclean : d.sanitize value = .ok clean) :
      Answers L (.set name (.ok value)) .done
        { L with records := Function.update L.records name (some clean) }
  | remove (name : String) :
      Answers L (.remove name) (.removed (L.records name).isSome)
        { L with records := Function.update L.records name none }
  | getNone {decoder : Decoder α} {name : String} (h : L.records name = none) :
      Answers L (.get decoder name) (.found none) L
  | getSome {decoder : Decoder α} {name : String} {record : Json} {a : α}
      (h : L.records name = some record) (ha : decodeValue decoder record = .ok a) :
      Answers L (.get decoder name) (.found (some a)) L
  | getRecord {decoder : Decoder α} {name : String} {record : Json} {a : α}
      (h : L.records name = some record) (ha : decodeValue decoder record = .ok a) :
      Answers L (.getOrDefault decoder name) (.value a) L
  | getDefault {decoder : Decoder α} {name : String} {d : Definition} {a : α}
      (h : L.records name = none) (hd : L.definitions name = some d)
      (ha : decodeValue decoder d.default = .ok a) :
      Answers L (.getOrDefault decoder name) (.value a) L
  | describe (name : String) : Answers L (.describe name) (.definition (L.definitions name)) L
  | registered {names : List String} (hsorted : names.Pairwise (· < ·))
      (hmem : ∀ name, name ∈ names ↔ (L.definitions name).isSome = true) :
      Answers L .registered (.names names) L

/-- Why a ledger does not answer a question. -/
inductive Refuses (L : Ledger) : Ask α → SettingsError → Prop
  | registered {d : Definition} (h : (L.definitions d.name).isSome = true) :
      Refuses L (.register d) { cause := .alreadyRegistered d.name }
  | encoding (name : String) (e : DecodeError) :
      Refuses L (.set name (.error e))
        { cause := .decoding e, context := some s!"Failed to encode setting '{name}'" }
  | unknown {name : String} (value : Json) (h : L.definitions name = none) :
      Refuses L (.set name (.ok value)) { cause := .unknownSetting name }
  | schema {name : String} {value : Json} {d : Definition} {e : SettingsError}
      (hd : L.definitions name = some d) (he : d.sanitize value = .error e) :
      Refuses L (.set name (.ok value)) e
  | get {decoder : Decoder α} {name : String} {record : Json} {e : DecodeError}
      (h : L.records name = some record) (he : decodeValue decoder record = .error e) :
      Refuses L (.get decoder name)
        { cause := .decoding e, context := some s!"Failed to decode setting '{name}'" }
  | getRecord {decoder : Decoder α} {name : String} {record : Json} {e : DecodeError}
      (h : L.records name = some record) (he : decodeValue decoder record = .error e) :
      Refuses L (.getOrDefault decoder name)
        { cause := .decoding e, context := some s!"Failed to decode setting '{name}'" }
  | getUnknown {decoder : Decoder α} {name : String} (h : L.records name = none)
      (hd : L.definitions name = none) :
      Refuses L (.getOrDefault decoder name) { cause := .unknownSetting name }
  | getDefault {decoder : Decoder α} {name : String} {d : Definition} {e : DecodeError}
      (h : L.records name = none) (hd : L.definitions name = some d)
      (he : decodeValue decoder d.default = .error e) :
      Refuses L (.getOrDefault decoder name)
        { cause := .decoding e, context := some s!"Failed to decode default of '{name}'" }

/-- Whether an answer changes records: storing always counts, removing if there is a record. -/
def Writes (L : Ledger) : Ask α → Prop
  | .set .. => True
  | .remove name => L.records name ≠ none
  | _ => False

/-- The text of a document with the records of a ledger: all of them, in the order of their names,
as one object that is printed over several lines, and a line break. -/
def IsText (L : Ledger) (text : String) : Prop :=
  ∃ entries : Entries Json, entries.Ordered ∧ Entries.get? entries = L.records ∧
    text = (Json.object entries).pretty ++ "\n"

/-- What a store may do when it is asked something, by its ledger and by the files. -/
inductive Step (fs : FileSystem (StateM σ)) (view : σ → Disk) (process : String) (L : Ledger)
    (before : σ) (question : Ask α) : Except SettingsError (Reply α) → Ledger → σ → Prop
  /-- The ledger answers, and there is nothing to write. -/
  | answered {reply : Reply α} {L' : Ledger} (h : L.Answers question reply L')
      (hquiet : L.path = none ∨ ¬ L.Writes question) :
      Step fs view process L before question (.ok reply) L' before
  /-- The ledger answers, and all steps of writing the document succeed. -/
  | saved {reply : Reply α} {L' : Ledger} {path text : String} {n : Nat} {after : σ}
      (h : L.Answers question reply L') (hwrites : L.Writes question) (hpath : L.path = some path)
      (htext : L'.IsText text)
      (hsteps : (runAll fs (updateSteps path (tempPath path process n) text)).run before =
        (.ok (), after))
      (hfiles : Saved path (tempPath path process n) text (view before) (view after)) :
      Step fs view process L before question (.ok reply) L' after
  /-- The ledger does not answer. -/
  | refused {e : SettingsError} (h : L.Refuses question e) :
      Step fs view process L before question (.error e) L before
  /-- The ledger would answer, but a step of writing the document that the answer needs fails. What
  is to be done about that is done, and the answer is the error of the step. -/
  | failed {reply : Reply α} {L' : Ledger} {path text : String} {n : Nat} {step : FileStep}
      {cause : IoError} {during : σ} (h : L.Answers question reply L') (hwrites : L.Writes question)
      (hpath : L.path = some path) (htext : L'.IsText text)
      (hsteps : (runAll fs (updateSteps path (tempPath path process n) text)).run before =
        (.error (step, cause), during))
      (hfiles : Spared path (tempPath path process n) step (view before)
        (view ((step.undo fs).run during).2)) :
      Step fs view process L before question (.error (step.failure cause)) L
        ((step.undo fs).run during).2

/-- Without a document the names of temporary files do not matter. -/
theorem Step.of_path_eq_none {fs : FileSystem (StateM σ)} {view : σ → Disk}
    {process process' : String} {L L' : Ledger} {before after : σ} {question : Ask α}
    {answer : Except SettingsError (Reply α)} (hpath : L.path = none)
    (h : L.Step fs view process before question answer L' after) :
    L.Step fs view process' before question answer L' after := by
  cases h with
  | answered h hquiet => exact .answered h hquiet
  | refused h => exact .refused h
  | saved _ _ hsome => exact absurd (hpath.symm.trans hsome) nofun
  | failed _ _ hsome => exact absurd (hpath.symm.trans hsome) nofun

end Ledger

namespace Store

/-- The ledger of a store. -/
def ledger (store : Store) : Ledger where
  path := store.path
  definitions := Entries.get? store.definitions
  records := Entries.get? store.records

/-- A store whose names stand in order. -/
structure Ordered (store : Store) : Prop where
  definitions : store.definitions.Ordered
  records : store.records.Ordered

section Ask

variable {σ α : Type} {fs : FileSystem (StateM σ)} {view : σ → Disk} {store : Store}

/-- What is left of a step to be said of its result. -/
structure Follows (fs : FileSystem (StateM σ)) (view : σ → Disk) (store : Store) (s : σ)
    (question : Ask α) (result : (Except SettingsError (Reply α) × Store) × σ) : Prop where
  step : Ledger.Step fs view store.process store.ledger s question result.1.1 result.1.2.ledger
    result.2
  ordered : result.1.2.Ordered
  path : result.1.2.path = store.path
  process : result.1.2.process = store.process

theorem ledger_insert_definition (store : Store) (d : Definition) :
    { store with definitions := Entries.insert d.name d store.definitions }.ledger =
      { store.ledger with
        definitions := Function.update store.ledger.definitions d.name (some d) } := by
  have hget : Entries.get? (Entries.insert d.name d store.definitions) =
      Function.update (Entries.get? store.definitions) d.name (some d) := by
    funext other
    rw [Entries.get?_insert, Function.update_apply]
  rw [ledger, hget]
  rfl

theorem follows_register (hordered : store.Ordered) (d : Definition) (s : σ) :
    Follows fs view store s (.register d : Ask α) (outcome (ask fs (.register d)) store s) := by
  rw [ask, outcome_get_bind, register]
  cases hhas : Entries.has store.definitions d.name with
  | true =>
    exact ⟨.refused (.registered hhas), hordered, rfl, rfl⟩
  | false =>
    have hnone : store.ledger.definitions d.name = none := by
      change Entries.get? store.definitions d.name = none
      simpa [Entries.has] using hhas
    refine ⟨.answered ?_ (.inr id), ⟨Entries.ordered_insert _ _ hordered.definitions,
      hordered.records⟩, rfl, rfl⟩
    rw [outcome_bind]
    change Ledger.Answers store.ledger _ _
      { store with definitions := Entries.insert d.name d store.definitions }.ledger
    rw [ledger_insert_definition]
    exact .register hnone

/-- An answer that takes over new records. -/
theorem follows_commit (hfs : fs.OnDisk view) (hordered : store.Ordered)
    (hprocess : '/' ∉ store.process.toList) {question : Ask α} {reply : Reply α}
    {records : Entries Json} (hrecords : records.Ordered)
    (hanswer : store.ledger.Answers question reply
      { store.ledger with records := Entries.get? records })
    (hwrites : store.ledger.Writes question) (s : σ) :
    Follows fs view store s question
      (outcome (commit fs records >>= fun _ ↦ pure reply) store s) := by
  rw [outcome_bind]
  have htext : Ledger.IsText { store.ledger with records := Entries.get? records }
      (documentText records) := ⟨records, hrecords, rfl, rfl⟩
  rcases outcome_commit_cases fs records store s with
    ⟨hpath, hcommit⟩ |
      ⟨path, hpath, ⟨n, s', hsteps, hcommit⟩ | ⟨n, step, cause, mid, hsteps, hcommit⟩⟩
  · rw [hcommit]
    exact ⟨.answered hanswer (.inl hpath), ⟨hordered.definitions, hrecords⟩, rfl, rfl⟩
  · rw [hcommit]
    exact ⟨.saved hanswer hwrites hpath htext hsteps (saved_of_runAll hfs hprocess hsteps),
      ⟨hordered.definitions, hrecords⟩, rfl, rfl⟩
  · rw [hcommit]
    exact ⟨.failed hanswer hwrites hpath htext hsteps (spared_of_runAll hfs hprocess hsteps),
      ⟨hordered.definitions, hordered.records⟩, rfl, rfl⟩

theorem follows_set (hfs : fs.OnDisk view) (hordered : store.Ordered)
    (hprocess : '/' ∉ store.process.toList) (name : String) (value : Except Json.DecodeError Json)
    (s : σ) :
    Follows fs view store s (.set name value : Ask α)
      (outcome (ask fs (.set name value)) store s) := by
  cases value with
  | error e => exact ⟨.refused (.encoding name e), hordered, rfl, rfl⟩
  | ok value =>
    rw [ask, setEncoded, outcome_bind, set, outcome_get_bind]
    cases hdescribe : store.describe? name with
    | none => exact ⟨.refused (.unknown value hdescribe), hordered, rfl, rfl⟩
    | some d =>
      dsimp only
      cases hclean : d.sanitize value with
      | error e => exact ⟨.refused (.schema hdescribe hclean), hordered, rfl, rfl⟩
      | ok clean =>
        have hget : Entries.get? (Entries.insert name clean store.records) =
            Function.update store.ledger.records name (some clean) := by
          funext other
          rw [Entries.get?_insert, Function.update_apply]
          rfl
        have hanswer := Ledger.Answers.set (α := α) (L := store.ledger) hdescribe hclean
        rw [← hget] at hanswer
        have hcommit := follows_commit hfs hordered hprocess
          (Entries.ordered_insert name clean hordered.records) hanswer trivial s
        rwa [outcome_bind] at hcommit

theorem follows_remove (hfs : fs.OnDisk view) (hordered : store.Ordered)
    (hprocess : '/' ∉ store.process.toList) (name : String) (s : σ) :
    Follows fs view store s (.remove name : Ask α) (outcome (ask fs (.remove name)) store s) := by
  have hanswer := Ledger.Answers.remove (α := α) (L := store.ledger) name
  rw [ask, outcome_bind, remove, outcome_get_bind]
  cases hrecord : store.record? name with
  | none =>
    have hnone : store.ledger.records name = none := hrecord
    have hsame : Function.update store.ledger.records name none = store.ledger.records := by
      rw [← hnone, Function.update_eq_self]
    rw [hnone, hsame] at hanswer
    exact ⟨.answered hanswer (.inr fun hwrites ↦ hwrites hnone), hordered, rfl, rfl⟩
  | some record =>
    have hsome : store.ledger.records name = some record := hrecord
    have hget : Entries.get? (Entries.erase name store.records) =
        Function.update store.ledger.records name none := by
      funext other
      rw [Entries.get?_erase, Function.update_apply]
      rfl
    rw [hsome, ← hget] at hanswer
    have hwrites : store.ledger.Writes (.remove name : Ask α) := by
      change store.ledger.records name ≠ none
      simp [hsome]
    have hcommit := follows_commit hfs hordered hprocess
      (Entries.ordered_erase name hordered.records) hanswer hwrites s
    have hremove : (if (some record).isNone = true then pure false
        else do
          commit fs (Entries.erase name store.records)
          pure true : Update (StateM σ) Bool) =
        commit fs (Entries.erase name store.records) >>= fun _ ↦ pure true := rfl
    rw [hremove, outcome_bind]
    rw [outcome_bind] at hcommit
    revert hcommit
    rcases outcome (commit fs (Entries.erase name store.records)) store s with
      ⟨⟨e | _, store'⟩, s'⟩ <;> exact id

theorem follows_get (hordered : store.Ordered) (decoder : Json.Decoder α) (name : String) (s : σ) :
    Follows fs view store s (.get decoder name) (outcome (ask fs (.get decoder name)) store s) := by
  rw [ask, outcome_get_bind, get?]
  cases hrecord : store.record? name with
  | none => exact ⟨.answered (.getNone hrecord) (.inr id), hordered, rfl, rfl⟩
  | some record =>
    dsimp only
    cases ha : Json.decodeValue decoder record with
    | ok a => exact ⟨.answered (.getSome hrecord ha) (.inr id), hordered, rfl, rfl⟩
    | error e => exact ⟨.refused (.get hrecord ha), hordered, rfl, rfl⟩

theorem follows_getOrDefault (hordered : store.Ordered) (decoder : Json.Decoder α) (name : String)
    (s : σ) :
    Follows fs view store s (.getOrDefault decoder name)
      (outcome (ask fs (.getOrDefault decoder name)) store s) := by
  rw [ask, outcome_get_bind, getOrDefault, get?]
  cases hrecord : store.record? name with
  | none =>
    dsimp only [bind, Except.bind]
    cases hdescribe : store.describe? name with
    | none => exact ⟨.refused (.getUnknown hrecord hdescribe), hordered, rfl, rfl⟩
    | some d =>
      dsimp only
      cases ha : Json.decodeValue decoder d.default with
      | ok a => exact ⟨.answered (.getDefault hrecord hdescribe ha) (.inr id), hordered, rfl, rfl⟩
      | error e => exact ⟨.refused (.getDefault hrecord hdescribe ha), hordered, rfl, rfl⟩
  | some record =>
    dsimp only
    cases ha : Json.decodeValue decoder record with
    | ok a => exact ⟨.answered (.getRecord hrecord ha) (.inr id), hordered, rfl, rfl⟩
    | error e => exact ⟨.refused (.getRecord hrecord ha), hordered, rfl, rfl⟩

/-- A store does nothing but what its ledger allows, whatever fails on the way. -/
theorem follows_ask (hfs : fs.OnDisk view) (hordered : store.Ordered)
    (hprocess : '/' ∉ store.process.toList) (question : Ask α) (s : σ) :
    Follows fs view store s question (outcome (ask fs question) store s) := by
  cases question with
  | register d => exact follows_register hordered d s
  | set name value => exact follows_set hfs hordered hprocess name value s
  | remove name => exact follows_remove hfs hordered hprocess name s
  | get decoder name => exact follows_get hordered decoder name s
  | getOrDefault decoder name => exact follows_getOrDefault hordered decoder name s
  | describe name => exact ⟨.answered (.describe name) (.inr id), hordered, rfl, rfl⟩
  | registered =>
    refine ⟨.answered (.registered (Entries.pairwise_names hordered.definitions) ?_) (.inr id),
      hordered, rfl, rfl⟩
    exact fun name ↦ Entries.mem_names_iff

end Ask

end Store

end Responsive

import Responsive.Proofs.Settings.Definition
import Responsive.Proofs.Settings.Handles
import Responsive.Proofs.Settings.Reopen
import Responsive.Proofs.Settings.Schema

/-!
# Records and their definitions

A store that began without records holds only what its definitions let in. Every stored record has a
definition, which stays what it is for as long as the store lives, and it is what that definition
makes of the value that was stored last under its name. So a record that is got can be stored again:
nothing is refused, and neither the records nor the document change.

* `Ledger.Step.conforms`: one question keeps records and definitions together.
* `Store.Orderly.write_back`: storing what is stored already.
* `Store.askAll_conforms`: both for every list of questions.
-/

set_option autoImplicit false
set_option relaxedAutoImplicit false

namespace Responsive

open Json

variable {σ α : Type}

/-! ### Values in memory -/

namespace Json

open Outline

mutual

/-- The outline of a value in order has that value, if it is deep enough. -/
theorem value?_ofJson (v : Json) (h : v.Ordered) (bound : Nat) (hbound : v.depth < bound) :
    (ofJson v).value? bound = some v := by
  cases v with
  | null => rfl
  | bool b => rfl
  | number n => rfl
  | text s => rfl
  | array items =>
    rw [depth] at hbound
    rw [ofJson, value?, values?_ofItems items h (bound - 1) (by omega)]
    simp only [Bool.true_and, decide_eq_true_eq]
    rw [if_pos (by omega)]
    rfl
  | object members =>
    rw [depth] at hbound
    rw [ofJson, value?, members?_ofMembers members h.2 (bound - 1) (by omega)]
    simp only [Bool.true_and, decide_eq_true_eq]
    rw [if_pos (by omega), Option.map_some, ofPairs, Entries.ofPairs_eq_self h.1]

theorem values?_ofItems (items : List Json) (h : OrderedItems items) (bound : Nat)
    (hbound : itemsDepth items < bound) : values? bound (ofItems items) = some items := by
  cases items with
  | nil => rfl
  | cons item items =>
    rw [itemsDepth] at hbound
    rw [ofItems, values?, value?_ofJson item h.1 bound (by omega),
      values?_ofItems items h.2 bound (by omega)]
    rfl

theorem members?_ofMembers (members : List (String × Json)) (h : OrderedMembers members)
    (bound : Nat) (hbound : membersDepth members < bound) :
    members? bound (ofMembers members) = some members := by
  cases members with
  | nil => rfl
  | cons member members =>
    obtain ⟨name, value⟩ := member
    rw [membersDepth] at hbound
    rw [ofMembers, members?, value?_ofJson value h.1 bound (by omega),
      members?_ofMembers members h.2 bound (by omega)]
    rfl

end

theorem decodeValue_any {v : Json} (h : v.Ordered) : decodeValue Decoder.any v = .ok v := by
  rw [decodeValue, Decoder.any, value?_ofJson v h (v.depth + 2) (by omega)]

end Json

namespace Store

/-- The values that were stored last by their names, with one more call. -/
def noteGiven (given : String → Option Json) :
    Ask α × Except SettingsError (Reply α) → String → Option Json
  | (.set name (.ok value), .ok _) => Function.update given name (some value)
  | _ => given

/-- What was given to the last successful call that stored something under a name. -/
def lastGiven (calls : List (Ask α × Except SettingsError (Reply α))) : String → Option Json :=
  calls.foldl noteGiven fun _ ↦ none

theorem noteGiven_error (given : String → Option Json) (question : Ask α) (e : SettingsError) :
    noteGiven given (question, .error e) = given := by
  cases question with
  | set name value => cases value <;> rfl
  | _ => rfl

theorem noteGiven_of_forall_ne (given : String → Option Json) {question : Ask α} {name : String}
    (h : ∀ value, question ≠ .set name (.ok value)) (answer : Except SettingsError (Reply α)) :
    noteGiven given (question, answer) name = given name := by
  cases question with
  | set other value =>
    cases value with
    | error e => rfl
    | ok value =>
      cases answer with
      | error e => rfl
      | ok reply =>
        have hne : name ≠ other := fun hname ↦ h value (hname ▸ rfl)
        exact Function.update_of_ne hne _ _
  | _ => rfl

end Store

namespace Ledger

open Store

/-- Every record is what its definition makes of the value that was given for it. -/
def Conforms (L : Ledger) (given : String → Option Json) : Prop :=
  ∀ name record, L.records name = some record → ∃ d value, L.definitions name = some d ∧
    given name = some value ∧ d.sanitize value = .ok record

variable {fs : FileSystem (StateM σ)} {view : σ → Disk} {L L' : Ledger} {process : String}
  {before after : σ} {question : Ask α} {answer : Except SettingsError (Reply α)}
  {given : String → Option Json}

/-- No answer changes a definition. -/
theorem Answers.definitions_eq {reply : Reply α} (h : L.Answers question reply L') {name : String}
    {d : Definition} (hd : L.definitions name = some d) : L'.definitions name = some d := by
  cases h with
  | @register d' hnone =>
    have hne : name ≠ d'.name := by
      rintro rfl
      exact absurd (hnone.symm.trans hd) nofun
    exact (Function.update_of_ne hne _ _).trans hd
  | _ => exact hd

theorem Answers.conforms {reply : Reply α} (h : L.Answers question reply L')
    (hL : L.Conforms given) : L'.Conforms (noteGiven given (question, .ok reply)) := by
  intro name record hrecord
  rcases h.record_cases hrecord with ⟨value, d, rfl, hd, hclean⟩ | ⟨hold, hnot⟩
  · exact ⟨d, value, h.definitions_eq hd, Function.update_self _ _ _, hclean⟩
  · obtain ⟨d, value, hd, hgiven, hclean⟩ := hL name record hold
    exact ⟨d, value, h.definitions_eq hd, (noteGiven_of_forall_ne given hnot _).trans hgiven,
      hclean⟩

/-- Whatever a store does, its records stay what their definitions make of the values given last. -/
theorem Step.conforms (h : L.Step fs view process before question answer L' after)
    (hL : L.Conforms given) : L'.Conforms (noteGiven given (question, answer)) := by
  cases h with
  | answered h => exact h.conforms hL
  | saved h => exact h.conforms hL
  | refused => rwa [noteGiven_error]
  | failed => rwa [noteGiven_error]

theorem Step.definitions_eq (h : L.Step fs view process before question answer L' after)
    {name : String} {d : Definition} (hd : L.definitions name = some d) :
    L'.definitions name = some d := by
  cases h with
  | answered h => exact h.definitions_eq hd
  | saved h => exact h.definitions_eq hd
  | refused => exact hd
  | failed => exact hd

/-- Storing a record again that its definition takes as it is leaves the ledger as it is. -/
theorem Step.eq_of_set_again {name : String} {record : Json} {d : Definition}
    (hd : L.definitions name = some d) (hclean : d.sanitize record = .ok record)
    (hrecord : L.records name = some record)
    (h : L.Step fs view process before (.set name (.ok record)) answer L' after) : L' = L := by
  have hanswers {reply : Reply α} {L' : Ledger} (h : L.Answers (.set name (.ok record)) reply L') :
      L' = L := by
    cases h with
    | set hd' hclean' =>
      obtain rfl := Option.some.inj (hd.symm.trans hd')
      obtain rfl := Except.ok.inj (hclean.symm.trans hclean')
      rw [← hrecord, Function.update_eq_self]
  cases h with
  | answered h => exact hanswers h
  | saved h => exact hanswers h
  | refused => rfl
  | failed => rfl

end Ledger

namespace Store

variable {fs : FileSystem (StateM σ)} {view : σ → Disk} {store : Store} {s : σ}
  {given : String → Option Json}

/-- A store whose records are what their definitions make of the values given last, and whose
document, if it has one, has been written with them. -/
structure Orderly (given : String → Option Json) (store : Store) (disk : Disk) : Prop where
  ordered : store.Ordered
  not_slash : '/' ∉ store.process.toList
  records : store.ledger.RecordsOrdered
  conforms : store.ledger.Conforms given
  document : ∀ path ∈ store.path, store.records ≠ [] →
    disk.read path = .ok (.text (documentText store.records))

/-- The text with the records of a store is that of its document. -/
theorem Ordered.eq_documentText (h : store.Ordered) {text : String}
    (htext : store.ledger.IsText text) : text = documentText store.records := by
  obtain ⟨entries, hentries, hget, rfl⟩ := htext
  rw [Entries.ext_get? hentries h.records fun name ↦ congrFun hget name]
  rfl

theorem Ordered.records_eq {store' : Store} (h : store.Ordered) (h' : store'.Ordered)
    (hrecords : store'.ledger.records = store.ledger.records) : store'.records = store.records :=
  Entries.ext_get? h'.records h.records fun name ↦ congrFun hrecords name

namespace Orderly

/-- Whatever is asked, and whatever fails, the store stays orderly. -/
theorem ask (hfs : fs.OnDisk view) (h : Orderly given store (view s)) {question : Ask α}
    (hquestion : question.Ordered) :
    Orderly (noteGiven given (question, (outcome (Store.ask fs question) store s).1.1))
      (outcome (Store.ask fs question) store s).1.2
      (view (outcome (Store.ask fs question) store s).2) := by
  have hfollows := follows_ask hfs h.ordered h.not_slash question s
  refine ⟨hfollows.ordered, hfollows.process ▸ h.not_slash,
    hfollows.step.recordsOrdered hquestion h.records, hfollows.step.conforms h.conforms, ?_⟩
  intro path hpath hne
  rw [hfollows.path] at hpath
  obtain ⟨hwrote, hnot⟩ := hfollows.step.written hpath
  cases hcall : Ask.wrote (question, (outcome (Store.ask fs question) store s).1.1) with
  | true =>
    obtain ⟨text, hread, htext⟩ := hwrote hcall
    rw [hread, hfollows.ordered.eq_documentText htext]
  | false =>
    obtain ⟨hrecords, hread, -⟩ := hnot hcall
    have hsame := h.ordered.records_eq hfollows.ordered hrecords
    rw [hsame] at hne ⊢
    exact hread _ (h.document path hpath hne)

/-- Questions one after the other: the store stays orderly, and no definition changes. -/
theorem askAll (hfs : fs.OnDisk view) (h : Orderly given store (view s))
    {questions : List (Ask α)} (hquestions : ∀ question ∈ questions, question.Ordered) :
    Orderly ((((Store.askAll fs questions).run store).run s).1.1.foldl noteGiven given)
        (((Store.askAll fs questions).run store).run s).1.2
        (view (((Store.askAll fs questions).run store).run s).2) ∧
      ∀ name d, store.describe? name = some d →
        (((Store.askAll fs questions).run store).run s).1.2.describe? name = some d := by
  induction questions generalizing given store s with
  | nil => exact ⟨h, fun _ _ hd ↦ hd⟩
  | cons question questions ih =>
    obtain ⟨hquestion, hrest⟩ := List.forall_mem_cons.mp hquestions
    have hstep := (follows_ask hfs h.ordered h.not_slash question s).step
    obtain ⟨horderly, hdefinitions⟩ := ih (h.ask hfs hquestion) hrest
    exact ⟨horderly, fun name d hd ↦ hdefinitions name d (hstep.definitions_eq hd)⟩

/-- A record that is got is the stored one. -/
theorem get?_any_eq_some_iff {disk : Disk} (h : Orderly given store disk) {name : String}
    {value : Json} :
    store.get? Decoder.any name = .ok (some value) ↔ store.record? name = some value := by
  rw [get?]
  cases hrecord : store.record? name with
  | none => simp
  | some record =>
    dsimp only
    rw [decodeValue_any (h.records name record hrecord)]
    simp

/-- Storing what is stored already: it passes the definition, and neither the store nor the document
changes, even if a step of writing it fails. -/
theorem write_back (hfs : fs.OnDisk view) (h : Orderly given store (view s)) {name : String}
    {record : Json} (hrecord : store.record? name = some record) :
    ∃ answer again s', outcome (Store.ask fs (.set name (.ok record) : Ask α)) store s =
        ((answer, again), s') ∧
      (answer = .ok .done ∨ ∃ e, answer = .error e ∧ Unwritten fs store s e) ∧
      again.records = store.records ∧ again.definitions = store.definitions ∧
      ∀ path ∈ store.path, (view s').read path = (view s).read path := by
  have hfollows := follows_ask hfs h.ordered h.not_slash (.set name (.ok record) : Ask α) s
  obtain ⟨d, value, hd, -, hclean⟩ := h.conforms name record hrecord
  have hagain := Definition.sanitize_of_sanitize_eq_ok hclean
  have hanswer : (outcome (Store.ask fs (.set name (.ok record) : Ask α)) store s).1.1 = .ok .done ∨
      ∃ e, (outcome (Store.ask fs (.set name (.ok record) : Ask α)) store s).1.1 = .error e ∧
        Unwritten fs store s e := by
    rw [outcome_ask_set]
    rcases (accepted_iff fs hd record s).mpr ⟨record, hagain⟩ with hok | ⟨e, herror, hunwritten⟩
    · exact .inl (congrArg (Except.map fun _ ↦ Reply.done) hok)
    · exact .inr ⟨e, congrArg (Except.map fun _ ↦ Reply.done) herror, hunwritten⟩
  revert hfollows hanswer
  rcases outcome (Store.ask fs (.set name (.ok record) : Ask α)) store s with ⟨⟨answer, again⟩, s'⟩
  intro hfollows hanswer
  have hsame := hfollows.step.eq_of_set_again hd hagain hrecord
  have hrecords := h.ordered.records_eq hfollows.ordered (congrArg Ledger.records hsame)
  refine ⟨answer, again, s', rfl, hanswer, hrecords, ?_, fun path hpath ↦ ?_⟩
  · exact Entries.ext_get? hfollows.ordered.definitions h.ordered.definitions fun other ↦
      congrFun (congrArg Ledger.definitions hsame) other
  · have hne : store.records ≠ [] := by
      rintro hnil
      rw [record?, hnil] at hrecord
      contradiction
    have hdocument := h.document path hpath hne
    obtain ⟨hwrote, hnot⟩ := hfollows.step.written hpath
    cases hcall : Ask.wrote (.set name (.ok record), answer) with
    | true =>
      obtain ⟨text, hread, htext⟩ := hwrote hcall
      rw [hread, hfollows.ordered.eq_documentText htext, hdocument]
      exact congrArg _ (congrArg _ (congrArg _ hrecords))
    | false =>
      obtain ⟨-, hread, -⟩ := hnot hcall
      rw [hread _ hdocument, hdocument]

end Orderly

/-- A store begins: in memory, or over a document that it opens. -/
def Begins (process : String) (store : Store) (files : FlakyDisk) : Prop :=
  store = .inMemory ∨ ∃ path create files',
    (openDocument FlakyDisk.fileSystem process path create).run files' = (.ok store, files)

theorem Begins.orderly {process : Nat} {files : FlakyDisk}
    (h : Begins (toString process) store files)
    (hempty : store.records = []) : Orderly (fun _ ↦ none) store files.disk := by
  have hnone (name : String) : store.ledger.records name = none := by
    change Entries.get? store.records name = none
    rw [hempty, Entries.get?_nil]
  have hparts : store.Ordered ∧ '/' ∉ store.process.toList := by
    rcases h with rfl | ⟨path, create, files', hopen⟩
    · exact ⟨⟨Entries.ordered_nil, Entries.ordered_nil⟩, List.not_mem_nil⟩
    · rw [run_openDocument FlakyDisk.onDisk] at hopen
      obtain ⟨records, rfl, hfinds⟩ := exists_of_ofDocument_eq_ok (congrArg Prod.fst hopen)
      exact ⟨⟨Entries.ordered_nil, hfinds.ordered.1.1⟩, not_slash_of_mem_toString process⟩
  refine ⟨hparts.1, hparts.2, fun name record hrecord ↦ ?_, fun name record hrecord ↦ ?_,
    fun path _ hne ↦ absurd hempty hne⟩
  · exact absurd ((hnone name).symm.trans hrecord) nofun
  · exact absurd ((hnone name).symm.trans hrecord) nofun

/-- In a store that began without records every record has a definition, whatever was asked and
whatever failed on the way, and it is what the definition lets in of the object that the last
successful call stored under the name. A definition stays what it is. A record that is got can be
stored again: the call succeeds, unless a step of writing the document fails, and records,
definitions and the document stay as they are in any case. -/
theorem askAll_conforms (process : Nat) {files files' : FlakyDisk} {store store' : Store}
    {questions : List (Ask α)} {calls : List (Ask α × Except SettingsError (Reply α))}
    (hbegins : Begins (toString process) store files) (hempty : store.records = [])
    (hquestions : ∀ question ∈ questions, question.Ordered)
    (hcalls : ((askAll FlakyDisk.fileSystem questions).run store).run files =
      ((calls, store'), files')) :
    (∀ name record, store'.record? name = some record → ∃ d fields kept,
      store'.describe? name = some d ∧ lastGiven calls name = some (.object fields) ∧
        record = .object kept ∧ d.LetsIn fields kept) ∧
    (∀ later : List (Ask α), (∀ question ∈ later, question.Ordered) →
      ∀ name d, store'.describe? name = some d →
        (((askAll FlakyDisk.fileSystem later).run store').run files').1.2.describe? name =
          some d) ∧
    ∀ name value, store'.get? Decoder.any name = .ok (some value) →
      ∃ answer again files'',
        outcome (ask FlakyDisk.fileSystem (.set name (.ok value) : Ask α)) store' files' =
          ((answer, again), files'') ∧
        (answer = .ok .done ∨
          ∃ e, answer = .error e ∧ Unwritten FlakyDisk.fileSystem store' files' e) ∧
        again.records = store'.records ∧ again.definitions = store'.definitions ∧
        ∀ path ∈ store'.path, files''.disk.read path = files'.disk.read path := by
  have hfs := FlakyDisk.onDisk
  obtain ⟨horderly, -⟩ := (hbegins.orderly hempty).askAll hfs hquestions
  rw [hcalls] at horderly
  refine ⟨fun name record hrecord ↦ ?_, fun later hlater name d hd ↦ ?_, fun name value hget ↦ ?_⟩
  · obtain ⟨d, value, hd, hgiven, hclean⟩ := horderly.conforms name record hrecord
    obtain ⟨fields, kept, rfl, rfl, hlets⟩ := Definition.sanitize_eq_ok_iff.mp hclean
    exact ⟨d, fields, kept, hd, hgiven, rfl, hlets⟩
  · exact (horderly.askAll hfs hlater).2 name d hd
  · exact horderly.write_back hfs (horderly.get?_any_eq_some_iff.mp hget)

/-- A setting that declares one property twice. -/
def panel : Definition where
  name := "panel"
  description := ""
  properties := [("rows", .integer), ("title", .string), ("rows", .string)]

/-- Defines the setting, and stores a value with a `null` and a field that is not declared. -/
def panelQuestions : List (Ask Unit) :=
  [.register panel, .set "panel" (.ok (.object
    [("rows", .int 3), ("title", .null), ("width", .int 80)]))]

/-- In memory the record has the one field that the definition lets in, and it is stored again
without any change. -/
theorem askAll_conforms_of_panel :
    ∃ calls store files, ((askAll FlakyDisk.fileSystem panelQuestions).run .inMemory).run {} =
        ((calls, store), files) ∧
      (∃ fields kept, lastGiven calls "panel" = some (.object fields) ∧
        store.record? "panel" = some (.object kept) ∧ panel.LetsIn fields kept ∧
        kept = [("rows", .int 3)]) ∧
      ∃ again files', outcome (ask FlakyDisk.fileSystem
          (.set "panel" (.ok (.object [("rows", .int 3)])) : Ask Unit)) store files =
          ((.ok .done, again), files') ∧ again.records = store.records := by
  have hquestions : ∀ question ∈ panelQuestions, question.Ordered := by
    rintro question hmem name value rfl
    simp only [panelQuestions, List.mem_cons, List.not_mem_nil, or_false, reduceCtorEq,
      false_or] at hmem
    obtain ⟨-, hvalue⟩ := Ask.set.inj hmem
    obtain rfl := Except.ok.inj hvalue
    exact ⟨by unfold Entries.Ordered; decide, trivial, trivial, trivial, trivial⟩
  have hrun : ((askAll FlakyDisk.fileSystem panelQuestions).run .inMemory).run {} =
      (([(.register panel, .ok .done), (.set "panel" (.ok (.object
        [("rows", .int 3), ("title", .null), ("width", .int 80)])), .ok .done)],
        { definitions := [("panel", panel)], records := [("panel", .object [("rows", .int 3)])] }),
          {}) := rfl
  obtain ⟨hrecords, -, hagain⟩ := askAll_conforms 1 (.inl rfl) rfl hquestions hrun
  obtain ⟨d, fields, kept, hd, hgiven, hkept, hlets⟩ := hrecords "panel" _ rfl
  obtain rfl : panel = d := Option.some.inj hd
  obtain ⟨answer, again, files', hset, hanswer, hsame, -⟩ := hagain "panel" _ rfl
  -- There is no document, so no step of writing one fails.
  obtain rfl := hanswer.resolve_right fun ⟨_, _, _, hpath, _⟩ ↦ nomatch hpath
  exact ⟨_, _, _, hrun,
    ⟨fields, kept, hgiven, congrArg some hkept, hlets, (Json.object.inj hkept).symm⟩,
    again, files', hset, hsame⟩

end Store

end Responsive

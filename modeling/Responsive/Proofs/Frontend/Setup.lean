import Responsive.Frontend.Basic
import Responsive.Proofs.Settings.Overrides
import Responsive.Proofs.Settings.Reopen

/-!
# Frontends over a document

A frontend that is set up over a document has the records of the document and, of definitions, that
of the overrides alone. Setting it up changes nothing that the document reads as, and it fails only
if the stylesheet of the site cannot be read. A pair that is saved takes the place of the overrides
among the records, unless a step of writing the document fails.

* `Store.overridesIn`: what the records of a document are decoded to as overrides.
* `Frontend.run_ofConfig`: what setting up a frontend answers.
* `Store.outcome_set_overrides`: what saving a pair does.
-/

set_option autoImplicit false
set_option relaxedAutoImplicit false

namespace Responsive

open Json

variable {σ : Type} {fs : FileSystem (StateM σ)} {view : σ → Disk}

/-! ### Records of a document -/

namespace Store

/-- What records are decoded to as overrides: where there is no record for them, to the empty
pair. -/
def overridesIn (records : Entries Json) : Except DecodeError Breakpoints :=
  match Entries.get? records overridesName with
  | none => .ok {}
  | some record => Breakpoints.ofJson record

/-- A store that a frontend opened. -/
def opened (process path : String) (records : Entries Json) : Store where
  path := some path
  process := process
  definitions := [(overridesName, overridesDefinition)]
  records := records

variable {path process : String} {records : Entries Json}

theorem opened_record? (process path : String) (records : Entries Json) (name : String) :
    (opened process path records).record? name = Entries.get? records name := rfl

theorem registerOverrides_eq (process path : String) (records : Entries Json) :
    registerOverrides { path := some path, process, records } = .ok (opened process path records) :=
  rfl

/-- Records that are decoded are read, and where there is no record for the overrides nothing is. -/
theorem exists_get?_opened (process path : String) {b : Breakpoints}
    (h : overridesIn records = .ok b) :
    ∃ found, (opened process path records).get? Breakpoints.decoder overridesName = .ok found ∧
      found.getD {} = b := by
  unfold get?
  rw [opened_record?]
  unfold overridesIn at h
  cases hget : Entries.get? records overridesName with
  | none =>
    rw [hget] at h
    exact ⟨none, rfl, Except.ok.inj h⟩
  | some record =>
    rw [hget] at h
    dsimp only
    rw [show decodeValue Breakpoints.decoder record = .ok b from h]
    exact ⟨some b, rfl, rfl⟩

/-- A record that is not decoded is an error. -/
theorem exists_get?_opened_eq_error (process path : String) {e : DecodeError}
    (h : overridesIn records = .error e) :
    ∃ cause, (opened process path records).get? Breakpoints.decoder overridesName =
      .error cause := by
  unfold get?
  rw [opened_record?]
  unfold overridesIn at h
  cases hget : Entries.get? records overridesName with
  | none =>
    rw [hget] at h
    contradiction
  | some record =>
    rw [hget] at h
    dsimp only
    rw [show decodeValue Breakpoints.decoder record = .error e from h]
    exact ⟨_, rfl⟩

/-- The overrides of a store, where there is no record for them the default of their definition. -/
theorem getOrDefault_opened {b : Breakpoints} (h : overridesIn records = .ok b) :
    (opened process path records).getOrDefault Breakpoints.decoder overridesName = .ok b := by
  obtain ⟨found, hfound, rfl⟩ := exists_get?_opened process path h
  rw [getOrDefault, hfound]
  cases found <;> rfl

/-- Overrides that are not decoded do not fall back to the default of their definition. -/
theorem exists_getOrDefault_opened {e : DecodeError} (h : overridesIn records = .error e) :
    ∃ cause, (opened process path records).getOrDefault Breakpoints.decoder overridesName =
      .error cause := by
  obtain ⟨cause, hcause⟩ := exists_get?_opened_eq_error process path h
  exact ⟨cause, by rw [getOrDefault, hcause]; rfl⟩

/-- A store that holds a pair gives it to the resolution; where it holds none, the empty pair makes
no difference. -/
theorem resolve_stored_opened {b : Breakpoints} (h : overridesIn records = .ok b)
    (hooks : DefaultHooks) :
    hooks.resolve (opened process path records).stored = hooks.resolve (.pair b) := by
  obtain ⟨found, hfound, rfl⟩ := exists_get?_opened process path h
  rw [stored, overrides?, hfound]
  cases found <;> rfl

end Store

/-! ### Setting up -/

/-- The configuration names a stylesheet that cannot be read as a text. -/
def Unstyled (config : Config) (disk : Disk) : Prop :=
  ∃ file ∈ config.breakpoints.stylesheet, ∀ text, disk.read file ≠ .ok (.text text)

/-- The configuration names no stylesheet, or one that can be read as a text and is not named like a
temporary file of the document: such a file goes away once it is old. -/
def Styled (config : Config) (disk : Disk) : Prop :=
  ∀ file ∈ config.breakpoints.stylesheet, Store.Apart config.settings.path file ∧
    ∃ text, disk.read file = .ok (.text text)

namespace Styled

variable {config : Config}

theorem not_unstyled {disk : Disk} (h : Styled config disk) : ¬ Unstyled config disk := by
  rintro ⟨file, hfile, hunread⟩
  obtain ⟨-, text, htext⟩ := h file hfile
  exact hunread text htext

/-- Removing abandoned files leaves the stylesheet alone. -/
theorem purge (hfs : fs.OnDisk view) {s : σ} (hproper : (view s).Proper)
    (h : Styled config (view s)) :
    Styled config (view ((Store.purge fs config.settings.path).run s).2) := by
  intro file hfile
  obtain ⟨hapart, text, htext⟩ := h file hfile
  refine ⟨hapart, text, ?_⟩
  rw [Store.read_purge hfs hproper hapart (.inr ⟨_, htext⟩), htext]

/-- Writing the document leaves the stylesheet alone, unless it is the document, which is a text. -/
theorem saved {before after : Disk} {temp text : String} (h : Styled config before)
    (hsaved : Store.Saved config.settings.path temp text before after) : Styled config after := by
  intro file hfile
  obtain ⟨hapart, old, hold⟩ := h file hfile
  obtain ⟨place, hplace, hcontent, hslash⟩ := Disk.read_eq_ok_iff.mp hold
  have hafter := hsaved.dirs.target? hplace
  by_cases hsame : after.target? config.settings.path = .ok place
  · obtain ⟨other, hother, htext, -⟩ := Disk.read_eq_ok_iff.mp hsaved.document
    obtain rfl := Except.ok.inj (hsame.symm.trans hother)
    exact ⟨hapart, text, Disk.read_eq_ok_iff.mpr ⟨place, hafter, htext, hslash⟩⟩
  · refine ⟨hapart, old, Disk.read_eq_ok_iff.mpr ⟨place, hafter, ?_, hslash⟩⟩
    rw [hsaved.others place hsame, hcontent]

end Styled

/-- Setting up the delivery of a site changes nothing, and it fails only if the stylesheet cannot be
read. -/
theorem Delivery.run_ofConfig (hfs : fs.OnDisk view) (config : Config) (filter : CssFilter)
    (s : σ) :
    (∃ delivery, (Delivery.ofConfig fs config filter).run s = (.ok delivery, s)) ∨
      ∃ e, (Delivery.ofConfig fs config filter).run s = (.error e, s) ∧
        Unstyled config (view s) := by
  unfold Delivery.ofConfig
  cases hstylesheet : config.breakpoints.stylesheet with
  | none => exact .inl ⟨_, rfl⟩
  | some file =>
    have hread : (fs.readText file).run s = ((view s).read file >>= Content.text?, s) := by
      rw [FileSystem.readText, StateT.run_bind, hfs.read]
      rfl
    dsimp only
    rw [StateT.run_bind, hread]
    cases hcontent : (view s).read file >>= Content.text? with
    | ok text => exact .inl ⟨_, rfl⟩
    | error e =>
      refine .inr ⟨_, rfl, file, hstylesheet, fun text htext ↦ ?_⟩
      rw [htext] at hcontent
      contradiction

/-- A frontend with the store of a document. -/
def Frontend.ofStore (config : Config) (delivery : Delivery) (store : Store) : Frontend where
  config := config
  store := store
  site := { hooks := configHooks config, delivery, fonts := { config := config.fonts } }

/-- Setting up a frontend gives it the records of the document, unless the stylesheet cannot be
read. Nothing but abandoned files goes away. -/
theorem Frontend.run_ofConfig (hfs : fs.OnDisk view) (process : String) (config : Config) {s s' : σ}
    (hproper : (view s).Proper) {records : Entries Json}
    (h : Store.Finds config.settings.path config.settings.create (view s) records)
    (hpurge : ((Store.purge fs config.settings.path).run s).2 = s') :
    (∃ delivery, (ofConfig fs process config).run s =
        (.ok (ofStore config delivery (.opened process config.settings.path records)), s')) ∨
      ∃ e, (ofConfig fs process config).run s = (.error e, s') ∧ Unstyled config (view s') := by
  have hopen := Store.run_openDocument hfs process config.settings.path config.settings.create s
  rw [Store.read_purge hfs hproper (.refl _) h.settled, h.ofDocument_eq, hpurge] at hopen
  rw [ofConfig, StateT.run_bind, hopen]
  change (∃ delivery, (withStore fs config _).run s' = (.ok _, s')) ∨
    ∃ e : FrontendError, (withStore fs config _).run s' = (.error e, s') ∧ _
  rw [withStore, Store.registerOverrides_eq]
  dsimp only
  rw [StateT.run_bind]
  rcases Delivery.run_ofConfig hfs config .standard s' with
    ⟨delivery, hrun⟩ | ⟨e, hrun, hunstyled⟩
  · rw [hrun]
    exact .inl ⟨delivery, rfl⟩
  · rw [hrun]
    exact .inr ⟨_, rfl, hunstyled⟩

/-- Setting up a frontend over a document that is missing or can be read fails, or it gives the
frontend the records of the document. It changes nothing that the document reads as. -/
theorem Frontend.run_ofConfig_of_settled (hfs : fs.OnDisk view) (process : String) (config : Config)
    {s : σ} (hproper : (view s).Proper) (hsettled : (view s).Settled config.settings.path) :
    ∃ s', (view s').Proper ∧
      (view s').read config.settings.path = (view s).read config.settings.path ∧
      ((∃ e, (ofConfig fs process config).run s = (.error e, s')) ∨
        ∃ (records : Entries Json) (delivery : Delivery),
          Store.Finds config.settings.path config.settings.create (view s) records ∧
          (ofConfig fs process config).run s =
            (.ok (ofStore config delivery (.opened process config.settings.path records)),
              s')) := by
  refine ⟨((Store.purge fs config.settings.path).run s).2,
    hproper.of_reaches (Store.reaches_purge hfs config.settings.path s),
    Store.read_purge hfs hproper (.refl _) hsettled, ?_⟩
  cases hdocument : Store.ofDocument process config.settings.path config.settings.create
      ((view s).read config.settings.path) with
  | ok store =>
    obtain ⟨records, -, hfinds⟩ := Store.exists_of_ofDocument_eq_ok hdocument
    rcases run_ofConfig hfs process config hproper hfinds rfl with
      ⟨delivery, hrun⟩ | ⟨e, hrun, -⟩
    · exact .inr ⟨records, delivery, hfinds, hrun⟩
    · exact .inl ⟨e, hrun⟩
  | error e =>
    have hopen := Store.run_openDocument hfs process config.settings.path config.settings.create s
    rw [Store.read_purge hfs hproper (.refl _) hsettled, hdocument] at hopen
    refine .inl ⟨{ cause := .settings e, context := some "Failed to open settings store" }, ?_⟩
    rw [ofConfig, StateT.run_bind, hopen]
    rfl

/-! ### Saving -/

theorem Breakpoints.ordered_toJson (b : Breakpoints) : b.toJson.Ordered := by
  rw [toJson_eq_object]
  refine ⟨Entries.ordered_cons.mpr ⟨?_, List.pairwise_singleton _ _⟩, trivial, trivial, trivial⟩
  simp only [List.mem_singleton, forall_eq]
  decide

theorem Breakpoints.depth_toJson (b : Breakpoints) : b.toJson.depth = 1 := by
  rw [toJson_eq_object]
  rfl

theorem Breakpoints.legible_toJson (b : Breakpoints) : b.toJson.Legible := by
  rw [toJson_eq_object]
  exact ⟨trivial, trivial, trivial⟩

namespace Store

variable {path process : String} {create create' : Bool} {disk disk' : Disk}
  {records : Entries Json}

/-- Saving a pair puts it among the records once all steps of writing the document have succeeded,
or one of these steps fails. -/
theorem outcome_set_overrides (hfs : fs.OnDisk view) (hprocess : '/' ∉ process.toList)
    (b : Breakpoints) (s : σ) :
    (∃ store s', outcome (set fs overridesName b.toJson) (opened process path records) s =
        ((.ok (), store), s') ∧ store.records = Entries.insert overridesName b.toJson records ∧
      (FileStep.runAll fs (updateSteps path (tempPath path process 1)
        (documentText (Entries.insert overridesName b.toJson records)))).run s = (.ok (), s') ∧
      (view s').read path =
        .ok (.text (documentText (Entries.insert overridesName b.toJson records)))) ∨
    ∃ (e : SettingsError) (store : Store) (s' : σ),
      outcome (set fs overridesName b.toJson) (opened process path records) s =
        ((.error e, store), s') ∧ Unwritten fs (opened process path records) s e := by
  have hset : outcome (set fs overridesName b.toJson) (opened process path records) s =
      outcome (commit fs (Entries.insert overridesName b.toJson records))
        (opened process path records) s := by
    have hdescribe : (opened process path records).describe? overridesName =
        some overridesDefinition := rfl
    rw [set, outcome_get_bind, hdescribe]
    dsimp only
    rw [sanitize_overridesDefinition]
    rfl
  rw [hset]
  rcases outcome_commit_cases fs (Entries.insert overridesName b.toJson records)
      (opened process path records) s with
    ⟨hpath, -⟩ | ⟨path', hpath, ⟨n, s', hsteps, hcommit⟩ | ⟨n, step, cause, mid, hsteps, hcommit⟩⟩
  · contradiction
  · obtain rfl : path = path' := Option.some.inj hpath
    exact .inl ⟨_, s', hcommit, rfl, hsteps, (saved_of_runAll hfs hprocess hsteps).document⟩
  · exact .inr ⟨_, _, _, hcommit, path', hpath, _, step, cause, mid, hsteps, rfl⟩

/-- The records other than the overrides are read back from their texts. -/
def OthersLegible (records : Entries Json) : Prop :=
  ∀ name record, name ≠ overridesName → Entries.get? records name = some record → record.Legible

theorem OthersLegible.congr {records' : Entries Json} (h : OthersLegible records)
    (hsame : ∀ name, name ≠ overridesName →
      Entries.get? records' name = Entries.get? records name) : OthersLegible records' :=
  fun name record hname hrecord ↦ h name record hname (hsame name hname ▸ hrecord)

/-- Records of a document keep their names in order when a pair is put among them. -/
theorem Finds.ordered_insert_overrides (h : Finds path create disk records) (b : Breakpoints) :
    (Json.object (Entries.insert overridesName b.toJson records)).Ordered := by
  obtain ⟨⟨hnames, hmembers⟩, -⟩ := h.ordered
  exact ⟨Entries.ordered_insert _ _ hnames, orderedMembers_iff.mpr <|
    Entries.forall_mem_insert hnames (p := fun member ↦ member.2.Ordered) b.ordered_toJson
      fun member hmember _ ↦ orderedMembers_iff.mp hmembers member hmember⟩

/-- A record of a document, by itself: its names are in order, and it nests less than the
document. -/
theorem Finds.ordered_record (h : Finds path create disk records) {name : String} {record : Json}
    (hrecord : Entries.get? records name = some record) :
    record.Ordered ∧ record.depth < depthLimit - 1 := by
  obtain ⟨⟨hnames, hmembers⟩, hdepth⟩ := h.ordered
  have hmember := (Entries.mem_iff_get?_eq_some hnames).mpr hrecord
  rw [depth] at hdepth
  exact ⟨orderedMembers_iff.mp hmembers _ hmember,
    (membersDepth_lt_iff (by decide)).mp (by omega) _ hmember⟩

/-- A document is found again after a pair was saved in it. -/
theorem Finds.insert_overrides (h : Finds path create disk records)
    (hothers : OthersLegible records) (b : Breakpoints)
    (hread : disk'.read path =
      .ok (.text (documentText (Entries.insert overridesName b.toJson records)))) :
    Finds path create' disk' (Entries.insert overridesName b.toJson records) := by
  have hnames := h.ordered.1.1
  have hget {member : String × Json} (hmember : member ∈ records) :
      Entries.get? records member.1 = some member.2 :=
    (Entries.mem_iff_get?_eq_some hnames).mp hmember
  refine .inr ⟨_, hread, (contains_documentText_iff (h.ordered_insert_overrides b)).mpr ⟨?_, ?_⟩⟩
  · have hinsert : membersDepth (Entries.insert overridesName b.toJson records) < depthLimit - 1 :=
      (membersDepth_lt_iff (by decide)).mpr <|
        Entries.forall_mem_insert hnames (p := fun member ↦ member.2.depth < depthLimit - 1)
          (by rw [b.depth_toJson]; decide) fun member hmember _ ↦
            (h.ordered_record (hget hmember)).2
    rw [depth]
    omega
  · exact legibleMembers_iff.mpr <|
      Entries.forall_mem_insert hnames (p := fun member ↦ member.2.Legible)
        b.legible_toJson fun member hmember hname ↦ hothers _ _ hname (hget hmember)

/-- The overrides after a pair was saved. -/
theorem overridesIn_insert (b : Breakpoints) (records : Entries Json) :
    overridesIn (Entries.insert overridesName b.toJson records) = .ok b := by
  rw [overridesIn, Entries.get?_insert, if_pos rfl]
  change Breakpoints.ofJson b.toJson = .ok b
  rw [Breakpoints.toJson_eq, Breakpoints.ofJson_entries]
  simp only [Breakpoints.only, if_true]
  exact congrArg Except.ok (Breakpoints.ext_get fun t ↦ Breakpoints.get_ofFn _ t)

/-- Overrides depend on nothing but their record. -/
theorem overridesIn_congr {records records' : Entries Json}
    (h : Entries.get? records overridesName = Entries.get? records' overridesName) :
    overridesIn records = overridesIn records' := by
  rw [overridesIn, overridesIn, h]

/-- Whatever becomes of its numbers, a document in which a pair was saved has that pair, and every
other record that is read back from its text. -/
theorem Finds.of_insert_overrides {found : Entries Json} (h : Finds path create disk records)
    (b : Breakpoints)
    (hread : disk'.read path =
      .ok (.text (documentText (Entries.insert overridesName b.toJson records))))
    (hfound : Finds path create' disk' found) :
    overridesIn found = .ok b ∧ ∀ name, name ≠ overridesName →
      (∀ record, Entries.get? records name = some record → record.Legible) →
      Entries.get? found name = Entries.get? records name := by
  have hget := get?_of_contains_documentText (h.ordered_insert_overrides b)
    ((finds_iff_of_read hread).mp hfound)
  have hback {record : Json} (hordered : record.Ordered) (hdepth : record.depth < depthLimit - 1)
      (hlegible : record.Legible) :
      (Outline.printed record).value? (depthLimit - 1) = some record :=
    (value?_printed_eq_some_iff record hordered _ (by decide)).mpr ⟨hdepth, hlegible⟩
  constructor
  · have hpair : Entries.get? found overridesName = some b.toJson := by
      rw [hget, Entries.get?_insert, if_pos rfl, Option.bind_some]
      exact hback b.ordered_toJson (by rw [b.depth_toJson]; decide) b.legible_toJson
    rw [← overridesIn_insert b records]
    exact overridesIn_congr (by rw [hpair, Entries.get?_insert, if_pos rfl])
  · intro name hname hlegible
    rw [hget, Entries.get?_insert, if_neg hname]
    cases hrecord : Entries.get? records name with
    | none => rfl
    | some record =>
      obtain ⟨hordered, hdepth⟩ := h.ordered_record hrecord
      exact hback hordered hdepth (hlegible record hrecord)

end Store

/-- The error of a pair that is not saved. -/
def Frontend.unsaved (e : SettingsError) : FrontendError where
  cause := .breakpoints { cause := .settings e, context := some "Failed to save breakpoints" }

/-- A frontend over a document saves a pair: it is among the records of the store then, and the
document is written with them, unless a step of writing it fails. -/
theorem Frontend.run_saveBreakpoints_ofStore (hfs : fs.OnDisk view) {process path : String}
    (hprocess : '/' ∉ process.toList) (config : Config) (delivery : Delivery)
    (records : Entries Json) (b : Breakpoints) {s : σ} (hproper : (view s).Proper) :
    ∃ s', (view s').Proper ∧
      ((∃ store,
          ((saveBreakpoints fs b).run.run
            (ofStore config delivery (.opened process path records))).run s =
              ((.ok (), ofStore config delivery store), s') ∧
          store.records = Entries.insert overridesName b.toJson records ∧
          (FileStep.runAll fs (Store.updateSteps path (Store.tempPath path process 1)
            (Store.documentText (Entries.insert overridesName b.toJson records)))).run s =
              (.ok (), s') ∧
          (view s').read path =
            .ok (.text (Store.documentText (Entries.insert overridesName b.toJson records)))) ∨
        ∃ (e : SettingsError) (frontend : Frontend),
          ((saveBreakpoints fs b).run.run
            (ofStore config delivery (.opened process path records))).run s =
              ((.error (unsaved e), frontend), s') ∧
          Store.Unwritten fs (.opened process path records) s e) := by
  have hkept := Store.Preserves.set (.of_keeps hfs.keeps_proper) overridesName b.toJson
    (.opened process path records) s hproper
  have hstore : (ofStore config delivery (.opened process path records)).store =
      .opened process path records := rfl
  have hrun := run_saveBreakpoints fs b (ofStore config delivery (.opened process path records)) s
  rw [hstore] at hrun
  rcases Store.outcome_set_overrides hfs hprocess b s with
    ⟨store, s', hset, hrecords, hsteps, hread⟩ | ⟨e, store, s', hset, hunwritten⟩
  · rw [hset] at hkept hrun
    exact ⟨s', hkept, .inl ⟨store, hrun, hrecords, hsteps, hread⟩⟩
  · rw [hset] at hkept hrun
    exact ⟨s', hkept, .inr ⟨e, _, hrun, hunwritten⟩⟩

end Responsive

import Responsive.CommandLine.Run
import Responsive.Proofs.Breakpoints.Document
import Responsive.Proofs.Frontend.Setup
import Responsive.Proofs.Resolution
import Responsive.Proofs.Settings.Ready

/-!
# Storing widths from the command line

Every command that stores widths is a process of its own: it opens the document, puts the widths
that it is given into the stored pair and writes the document again. So each tier ends up with the
width that was given last, and one that was never given keeps what the document said in the
beginning. The other records stay as they are. A stored pair that is not decoded stops every command
before it writes anything.

Only the disk can keep a command from that, so it is the disk before the first command of which is
assumed that it does not: that none of its changes fails, that the stylesheet of the site can be
read, and that every process can write the document.

* `exists_read?_report`: what is shown of the pair in force.
* `run_set_of_decoded`, `run_set_of_undecoded`: what one command does.
* `get_foldl_merged`: what a list of commands leaves of a pair.
* `Unhindered.run_set`: a disk on which commands succeed stays one.
* `runSets_keeps_last_given`: what a list of commands does to a document.
-/

set_option autoImplicit false
set_option relaxedAutoImplicit false

namespace Responsive.CommandLine

variable {σ α β : Type}

/-! ### Tasks -/

/-- The result of a task, with the frontend and the files behind it. -/
def outcome (task : Task (StateM σ) α) (frontend : Frontend) (s : σ) :
    (Except CommandError α × Frontend) × σ :=
  (task.run.run frontend).run s

theorem outcome_bind (task : Task (StateM σ) α) (next : α → Task (StateM σ) β) (frontend : Frontend)
    (s : σ) :
    outcome (task >>= next) frontend s =
      match outcome task frontend s with
      | ((.ok a, frontend), s) => outcome (next a) frontend s
      | ((.error e, frontend), s) => ((.error e, frontend), s) := by
  change outcome (ExceptT.bind task next) frontend s = _
  simp only [outcome, ExceptT.bind, ExceptT.mk, ExceptT.run, StateT.run, bind, StateT.bind]
  rcases task frontend s with ⟨⟨e | a, frontend'⟩, s'⟩
  · rfl
  · rfl

/-- What is reported of the pair in force. -/
def resolution (hooks : DefaultHooks) (r : Resolved) : Json :=
  .ofPairs
    [("tablet", .text (r.get .tablet)), ("mobile", .text (r.get .mobile)),
      ("custom", .texts (r.custom.toList.map Tier.name)), ("defaults", hooks.defaults.toJson)]

/-- The pair in force is that of the store. -/
theorem outcome_resolve (frontend : Frontend) (s : σ) :
    outcome resolve frontend s =
      ((.ok (report (resolution frontend.site.hooks
        (frontend.site.hooks.resolve frontend.stored))), frontend), s) := rfl

/-- A list of texts can be read back. -/
theorem readable_texts (l : List String) :
    (Json.texts l).Ordered ∧ (Json.texts l).depth ≤ 1 ∧ (Json.texts l).Legible := by
  have hitems : Json.OrderedItems (l.map .text) ∧ Json.itemsDepth (l.map .text) ≤ 0 ∧
      Json.LegibleItems (l.map .text) := by
    induction l with
    | nil => exact ⟨trivial, le_rfl, trivial⟩
    | cons s l ih => exact ⟨⟨trivial, ih.1⟩, max_le le_rfl ih.2.1, trivial, ih.2.2⟩
  exact ⟨hitems.1, Nat.succ_le_succ hitems.2.1, hitems.2.2⟩

/-- What is shown of the pair in force is an object with the width of every tier. -/
theorem exists_read?_report (hooks : DefaultHooks) (r : Resolved) :
    ∃ members, Json.read? (report (resolution hooks r)) = some (.object members) ∧
      ∀ t : Tier, Entries.get? members t.name = some (.text (r.get t)) := by
  let pairs : List (String × Json) :=
    [("tablet", .text (r.get .tablet)), ("mobile", .text (r.get .mobile)),
      ("custom", .texts (r.custom.toList.map Tier.name)), ("defaults", hooks.defaults.toJson)]
  have hpairs : ∀ pair ∈ pairs, pair.2.Ordered ∧ pair.2.depth ≤ 1 ∧ pair.2.Legible := by
    simp only [pairs, List.forall_mem_cons]
    exact ⟨⟨trivial, Nat.zero_le 1, trivial⟩, ⟨trivial, Nat.zero_le 1, trivial⟩, readable_texts _,
      ⟨Breakpoints.ordered_toJson _, (Breakpoints.depth_toJson _).le, Breakpoints.legible_toJson _⟩,
      List.forall_mem_nil _⟩
  have hmembers : ∀ member ∈ Entries.ofPairs pairs,
      member.2.Ordered ∧ member.2.depth ≤ 1 ∧ member.2.Legible :=
    fun member hmember ↦ hpairs member (Entries.mem_of_mem_ofPairs hmember)
  have hordered : (Json.object (Entries.ofPairs pairs)).Ordered :=
    ⟨Entries.ordered_ofPairs pairs,
      Json.orderedMembers_iff.mpr fun member h ↦ (hmembers member h).1⟩
  have hdepth : Json.membersDepth (Entries.ofPairs pairs) < 2 :=
    (Json.membersDepth_lt_iff Nat.two_pos).mpr fun member h ↦
      Nat.lt_succ_of_le (hmembers member h).2.1
  refine ⟨_, (Json.read?_pretty_eq_some_iff hordered).mpr ⟨?_, ?_⟩, fun t ↦ ?_⟩
  · rw [Json.depth, Json.depthLimit]
    omega
  · exact Json.legibleMembers_iff.mpr fun member h ↦ (hmembers member h).2.2
  · rw [Entries.get?_ofPairs]
    cases t <;> rfl

section SetWidths

variable {fs : FileSystem (StateM σ)} {frontend frontend' : Frontend} {s s' : σ}

theorem outcome_storedPair (frontend : Frontend) (s : σ) :
    outcome storedPair frontend s =
      (((frontend.store.getOrDefault Breakpoints.decoder overridesName).mapError .unreadableRecord,
        frontend), s) := by
  have hget : outcome (get : Task (StateM σ) Frontend) frontend s = ((.ok frontend, frontend), s) :=
    rfl
  rw [storedPair, outcome_bind, hget]
  dsimp only
  cases frontend.store.getOrDefault Breakpoints.decoder overridesName <;> rfl

theorem outcome_save {b : Breakpoints} {result : Except FrontendError Unit}
    (h : ((Frontend.saveBreakpoints fs b).run.run frontend).run s = ((result, frontend'), s')) :
    outcome (save fs b) frontend s = ((result.mapError .unsaved, frontend'), s') := by
  have hlift : outcome (liftM (Frontend.saveBreakpoints fs b).run : Task (StateM σ) _) frontend s =
      ((.ok result, frontend'), s') := by
    change (fun p ↦ ((Except.ok p.1.1, p.1.2), p.2))
      (((Frontend.saveBreakpoints fs b).run.run frontend).run s) = _
    rw [h]
  rw [save, outcome_bind, hlift]
  cases result <;> rfl

/-- Storing widths stops at a stored pair that is not decoded. -/
theorem outcome_setWidths_of_undecoded {e : SettingsError}
    (h : frontend.store.getOrDefault Breakpoints.decoder overridesName = .error e)
    (tablet mobile : Option String) :
    outcome (setWidths fs tablet mobile) frontend s =
      ((.error (.unreadableRecord e), frontend), s) := by
  rw [setWidths, outcome_bind, outcome_storedPair, h]
  rfl

/-- Otherwise the given widths are put into it, and the pair is saved and reported. -/
theorem outcome_setWidths {b : Breakpoints} {tablet mobile : Option String}
    {result : Except FrontendError Unit}
    (h : frontend.store.getOrDefault Breakpoints.decoder overridesName = .ok b)
    (hsave : ((Frontend.saveBreakpoints fs (withGiven b tablet mobile)).run.run frontend).run s =
      ((result, frontend'), s')) :
    outcome (setWidths fs tablet mobile) frontend s =
      (((result.mapError .unsaved).map fun _ ↦ report (resolution frontend'.site.hooks
        (frontend'.site.hooks.resolve frontend'.stored)), frontend'), s') := by
  rw [setWidths, outcome_bind, outcome_storedPair, h]
  change outcome (save fs (withGiven b tablet mobile) >>= fun _ ↦ resolve) frontend s = _
  rw [outcome_bind, outcome_save hsave]
  cases result with
  | error e => rfl
  | ok _ => exact outcome_resolve frontend' s'

end SetWidths

/-! ### Commands -/

section Run

variable {fs : FileSystem (StateM σ)} {process : String} {input : StateM σ (Except IoError Content)}
  {config : Config} {command : Command} {s s' : σ}

/-- A command whose frontend cannot be set up does nothing else. -/
theorem run_of_not_set_up {e : FrontendError}
    (h : (Frontend.ofConfig fs process config).run s = (.error e, s')) :
    (run { fs, process, input } config command).run s = (.error (.setup e), s') := by
  rw [run, StateT.run_bind, h]
  rfl

theorem run_of_set_up {frontend frontend' : Frontend} {result : Except CommandError String}
    {s'' : σ}
    (h : (Frontend.ofConfig fs process config).run s = (.ok frontend, s'))
    (hwith : outcome (runWith { fs, process, input } command) frontend s' =
      ((result, frontend'), s'')) :
    (run { fs, process, input } config command).run s = (result, s'') := by
  rw [run, StateT.run_bind, h]
  change (((runWith { fs, process, input } command).run.run frontend) >>= _).run s' = _
  rw [StateT.run_bind]
  rw [outcome] at hwith
  rw [hwith]
  rfl

end Run

/-- A command that stores widths, and the process that runs it. -/
structure SetCommand where
  process : Nat
  tablet : Option String := none
  mobile : Option String := none

namespace SetCommand

/-- The width that is given for a tier. -/
def given (command : SetCommand) : Tier → Option String
  | .tablet => command.tablet
  | .mobile => command.mobile

/-- The pair that the command makes of a stored one. -/
def merged (b : Breakpoints) (command : SetCommand) : Breakpoints :=
  withGiven b command.tablet command.mobile

/-- Runs the command. -/
def run {m : Type → Type} [Monad m] (fs : FileSystem m) (input : m (Except IoError Content))
    (config : Config) (command : SetCommand) : m (Except CommandError String) :=
  CommandLine.run { fs, process := toString command.process, input } config
    (.set command.tablet command.mobile)

theorem get_merged (b : Breakpoints) (command : SetCommand) (t : Tier) :
    (merged b command).get t = ((command.given t).map Text.trimmed).getD (b.get t) := by
  cases t <;> rfl

/-- Of the widths that are given for a tier the last one is kept, without the blanks around it. -/
theorem get_foldl_merged (b : Breakpoints) (commands : List SetCommand) (t : Tier) :
    (commands.foldl merged b).get t =
      ((commands.filterMap (·.given t)).getLast?.map Text.trimmed).getD (b.get t) := by
  induction commands generalizing b with
  | nil => rfl
  | cons command commands ih =>
    rw [List.foldl_cons, ih, get_merged]
    cases hgiven : command.given t with
    | none => simp only [List.filterMap_cons, hgiven, Option.map_none, Option.getD_none]
    | some width =>
      simp only [List.filterMap_cons, hgiven, List.getLast?_cons]
      cases (commands.filterMap (·.given t)).getLast? <;> rfl

end SetCommand

/-! ### One command -/

section OneCommand

variable {fs : FileSystem (StateM σ)} {view : σ → Disk} {input : StateM σ (Except IoError Content)}
  {config : Config} {s : σ} {records : Entries Json}

open Store

/-- A command that finds a pair that is decoded saves what it makes of the pair, unless the
stylesheet cannot be read or a step of writing the document fails. -/
theorem run_set_of_decoded (hfs : fs.OnDisk view) (hproper : (view s).Proper)
    (hfinds : Finds config.settings.path config.settings.create (view s) records)
    (hothers : OthersLegible records) {b : Breakpoints} (hb : overridesIn records = .ok b)
    (command : SetCommand) {swept : σ}
    (hpurge : ((purge fs config.settings.path).run s).2 = swept) :
    (∃ text s', (command.run fs input config).run s = (.ok text, s') ∧ (view s').Proper ∧
        (FileStep.runAll fs (updateSteps config.settings.path
          (tempPath config.settings.path (toString command.process) 1)
          (documentText (Entries.insert overridesName (command.merged b).toJson records)))).run
            swept = (.ok (), s') ∧
        Finds config.settings.path config.settings.create (view s')
          (Entries.insert overridesName (command.merged b).toJson records)) ∨
      (∃ e s', (command.run fs input config).run s = (.error e, s')) ∧
        (Unstyled config (view swept) ∨
          ∃ e, Unwritten fs (.opened (toString command.process) config.settings.path records) swept
            e) := by
  have hswept : (view swept).Proper :=
    hpurge ▸ hproper.of_reaches (reaches_purge hfs config.settings.path s)
  rcases Frontend.run_ofConfig hfs (toString command.process) config hproper hfinds hpurge with
    ⟨delivery, hsetup⟩ | ⟨e, hsetup, hunstyled⟩
  · obtain ⟨s', hproper', ⟨store, hsave, -, hsteps, hwritten⟩ | ⟨e, frontend, hsave, hunwritten⟩⟩ :=
      Frontend.run_saveBreakpoints_ofStore hfs (not_slash_of_mem_toString command.process) config
        delivery records (command.merged b) hswept
    · have hrun : (command.run fs input config).run s = _ :=
        run_of_set_up hsetup (outcome_setWidths (getOrDefault_opened hb) hsave)
      exact .inl ⟨_, s', hrun, hproper', hsteps, hfinds.insert_overrides hothers _ hwritten⟩
    · have hrun : (command.run fs input config).run s = _ :=
        run_of_set_up hsetup (outcome_setWidths (getOrDefault_opened hb) hsave)
      exact .inr ⟨⟨_, s', hrun⟩, .inr ⟨e, hunwritten⟩⟩
  · exact .inr ⟨⟨.setup e, swept, run_of_not_set_up hsetup⟩, .inl hunstyled⟩

/-- A command that finds a pair that is not decoded fails, and leaves the document alone. -/
theorem run_set_of_undecoded (hfs : fs.OnDisk view) (hproper : (view s).Proper)
    (hfinds : Finds config.settings.path config.settings.create (view s) records)
    {e : Json.DecodeError} (he : overridesIn records = .error e) (command : SetCommand) :
    ∃ failure, (command.run fs input config).run s =
        (.error failure, ((purge fs config.settings.path).run s).2) ∧
      (Styled config (view s) → ∃ cause, failure = .unreadableRecord cause) := by
  rcases Frontend.run_ofConfig hfs (toString command.process) config hproper hfinds rfl with
    ⟨delivery, hsetup⟩ | ⟨e, hsetup, hunstyled⟩
  · obtain ⟨cause, hcause⟩ := exists_getOrDefault_opened he
    refine ⟨.unreadableRecord cause, ?_, fun _ ↦ ⟨cause, rfl⟩⟩
    exact run_of_set_up hsetup (outcome_setWidths_of_undecoded hcause _ _)
  · refine ⟨.setup e, run_of_not_set_up hsetup, fun hstyled ↦ ?_⟩
    exact absurd hunstyled (hstyled.purge hfs hproper).not_unstyled

/-- The command that shows the pair in force shows what the hooks make of the stored pair. -/
theorem run_resolve_of_decoded (hfs : fs.OnDisk view) (hproper : (view s).Proper)
    (hfinds : Finds config.settings.path config.settings.create (view s) records)
    {b : Breakpoints} (hb : overridesIn records = .ok b) (hstyled : Styled config (view s))
    (process : String) :
    ((CommandLine.run { fs, process, input } config .resolve).run s).1 =
      .ok (report (resolution (Frontend.configHooks config)
        ((Frontend.configHooks config).resolve (.pair b)))) := by
  rcases Frontend.run_ofConfig hfs process config hproper hfinds rfl with
    ⟨delivery, hsetup⟩ | ⟨e, -, hunstyled⟩
  · have hrun : (CommandLine.run { fs, process, input } config .resolve).run s = _ :=
      run_of_set_up hsetup (outcome_resolve _ _)
    rw [hrun, ← resolve_stored_opened hb]
    rfl
  · exact absurd hunstyled (hstyled.purge hfs hproper).not_unstyled

end OneCommand

/-! ### Commands one after the other -/

/-- Runs the commands one after the other. -/
def runSets {m : Type → Type} [Monad m] (fs : FileSystem m) (input : m (Except IoError Content))
    (config : Config) (commands : List SetCommand) : m (List (Except CommandError String)) :=
  commands.mapM (·.run fs input config)

section Runs

variable {fs : FileSystem (StateM σ)} {view : σ → Disk} {input : StateM σ (Except IoError Content)}
  {config : Config} {s s' : σ} {records : Entries Json} {commands : List SetCommand}
  {results : List (Except CommandError String)}

open Store

/-- The first command is run before the others. -/
theorem exists_of_run_runSets_cons {command : SetCommand}
    (h : (runSets fs input config (command :: commands)).run s = (results, s')) :
    ∃ rest, results = ((command.run fs input config).run s).1 :: rest ∧
      (runSets fs input config commands).run ((command.run fs input config).run s).2 =
        (rest, s') := by
  rw [runSets, List.mapM_cons, StateT.run_bind] at h
  change (runSets fs input config commands >>= _).run _ = _ at h
  rw [StateT.run_bind] at h
  obtain ⟨hresults, hs'⟩ := Prod.mk.inj h
  exact ⟨_, hresults.symm, Prod.ext rfl hs'⟩

/-- What a list of commands does to a document whose stored pair is not decoded: all of them fail,
and the document stays as it is. -/
theorem run_runSets_of_undecoded (hfs : fs.OnDisk view) (hproper : (view s).Proper)
    (hfinds : Finds config.settings.path config.settings.create (view s) records)
    {e : Json.DecodeError} (he : overridesIn records = .error e)
    (hrun : (runSets fs input config commands).run s = (results, s')) :
    (∀ result ∈ results, ∃ failure, result = .error failure ∧
      (Styled config (view s) → ∃ cause, failure = .unreadableRecord cause)) ∧
      (view s').read config.settings.path = (view s).read config.settings.path := by
  induction commands generalizing s results with
  | nil =>
    obtain ⟨rfl, rfl⟩ := Prod.mk.inj hrun
    exact ⟨List.forall_mem_nil _, rfl⟩
  | cons command commands ih =>
    obtain ⟨rest, rfl, hrest⟩ := exists_of_run_runSets_cons hrun
    obtain ⟨failure, hfirst, hfailure⟩ := run_set_of_undecoded hfs hproper hfinds he command
    have hproper₁ := hproper.of_reaches (reaches_purge hfs config.settings.path s)
    have hread := read_purge hfs hproper (.refl config.settings.path) hfinds.settled
    rw [hfirst] at hrest ⊢
    obtain ⟨hall, hread'⟩ := ih hproper₁ (hfinds.of_read_eq hread) hrest
    refine ⟨List.forall_mem_cons.mpr ⟨⟨failure, rfl, hfailure⟩, fun result hresult ↦ ?_⟩,
      hread'.trans hread⟩
    obtain ⟨failure', rfl, hfailure'⟩ := hall result hresult
    exact ⟨failure', rfl, fun hstyled ↦ hfailure' (hstyled.purge hfs hproper)⟩

end Runs

/-! ### Disks on which commands succeed -/

section Unhindered

open Store FlakyDisk

variable {input : StateM FlakyDisk (Except IoError Content)} {config : Config}
  {files files' : FlakyDisk} {records : Entries Json} {command : SetCommand}
  {commands : List SetCommand} {results : List (Except CommandError String)}

/-- Nothing on the disk keeps the commands from their work: none of its changes fails, the
stylesheet of the site can be read and is not taken for a temporary file, and every process can write
the document. -/
structure Unhindered (config : Config) (commands : List SetCommand) (files : FlakyDisk) : Prop where
  faultless : files.Faultless
  styled : Styled config files.disk
  writable : ∀ command ∈ commands, Writable config.settings.path (toString command.process) files

/-- A command that finds a pair that is decoded saves what it makes of the pair, and nothing keeps
the others from their work after that. -/
theorem Unhindered.run_set (h : Unhindered config (command :: commands) files)
    (hproper : files.disk.Proper)
    (hfinds : Finds config.settings.path config.settings.create files.disk records)
    (hothers : OthersLegible records) {b : Breakpoints} (hb : overridesIn records = .ok b) :
    ∃ text files', (command.run fileSystem input config).run files = (.ok text, files') ∧
      files'.disk.Proper ∧
      Finds config.settings.path config.settings.create files'.disk
        (Entries.insert overridesName (command.merged b).toJson records) ∧
      Unhindered config commands files' := by
  have hprocess := not_slash_of_mem_toString command.process
  have hstyled := h.styled.purge onDisk hproper
  rcases run_set_of_decoded onDisk hproper hfinds hothers hb command rfl with
    ⟨text, files', hrun, hproper', hsteps, hfinds'⟩ | ⟨-, hunstyled | ⟨e, hunwritten⟩⟩
  · refine ⟨text, files', hrun, hproper', hfinds', ?_,
      hstyled.saved (saved_of_runAll onDisk hprocess hsteps), fun other hother ↦ ?_⟩
    · exact faultless_of_runAll h.faultless hsteps
    · exact (h.writable other (List.mem_cons_of_mem _ hother)).next
        (not_slash_of_mem_toString other.process) h.faultless hsteps
  · exact absurd hunstyled hstyled.not_unstyled
  · obtain ⟨path, hpath, text, step, cause, mid, hfailed, -⟩ := hunwritten
    obtain rfl : config.settings.path = path := Option.some.inj hpath
    obtain ⟨files', hsteps⟩ :=
      (h.writable command List.mem_cons_self).exists_runAll h.faultless text
    exact absurd (congrArg Prod.fst (hsteps.symm.trans hfailed)) nofun

/-- What a list of commands does to a document whose stored pair is decoded: all of them succeed,
and the document holds what they make of the pair one after the other. -/
theorem Unhindered.run_runSets (h : Unhindered config commands files) (hproper : files.disk.Proper)
    (hfinds : Finds config.settings.path config.settings.create files.disk records)
    (hothers : OthersLegible records) {b : Breakpoints} (hb : overridesIn records = .ok b)
    (hrun : (runSets fileSystem input config commands).run files = (results, files')) :
    (∀ result ∈ results, ∃ text, result = .ok text) ∧
      files'.disk.Proper ∧ Styled config files'.disk ∧
      ∃ records', Finds config.settings.path config.settings.create files'.disk records' ∧
        overridesIn records' = .ok (commands.foldl SetCommand.merged b) ∧
        (commands ≠ [] ∨ Entries.get? records overridesName = some b.toJson →
          Entries.get? records' overridesName = some (commands.foldl SetCommand.merged b).toJson) ∧
        ∀ name, name ≠ overridesName → Entries.get? records' name = Entries.get? records name := by
  -- The first command leaves a document that holds a pair again, with which the others begin.
  induction commands generalizing files records b results with
  | nil =>
    obtain ⟨rfl, rfl⟩ := Prod.mk.inj hrun
    refine ⟨List.forall_mem_nil _, hproper, h.styled, records, hfinds, hb, fun hwritten ↦ ?_,
      fun _ _ ↦ rfl⟩
    exact hwritten.resolve_left fun hne ↦ hne rfl
  | cons command commands ih =>
    obtain ⟨rest, rfl, hrest⟩ := exists_of_run_runSets_cons hrun
    obtain ⟨text, files₁, hfirst, hproper₁, hfinds₁, h₁⟩ := h.run_set hproper hfinds hothers hb
    rw [hfirst] at hrest ⊢
    have hget (name : String) (hname : name ≠ overridesName) :
        Entries.get? (Entries.insert overridesName (command.merged b).toJson records) name =
          Entries.get? records name := by
      rw [Entries.get?_insert, if_neg hname]
    have hwritten : Entries.get?
        (Entries.insert overridesName (command.merged b).toJson records) overridesName =
          some (command.merged b).toJson := by
      rw [Entries.get?_insert, if_pos rfl]
    obtain ⟨hall, hproper', hstyled', records', hfinds', hb', hrecord, hsame⟩ :=
      ih h₁ hproper₁ hfinds₁ (hothers.congr hget) (overridesIn_insert _ _) hrest
    exact ⟨List.forall_mem_cons.mpr ⟨⟨text, rfl⟩, hall⟩, hproper', hstyled', records', hfinds', hb',
      fun _ ↦ hrecord (.inr hwritten), fun name hname ↦ (hsame name hname).trans (hget name hname)⟩

/-- What the stored pair is decoded to: for each tier the text of what its record holds for the
tier, empty where it holds nothing. -/
theorem storedText?_of_overridesIn_eq_ok (h : (Json.object records).Ordered) {b : Breakpoints}
    (hb : overridesIn records = .ok b) (t : Tier) :
    (Entries.get? records overridesName).elim (some "") (Breakpoints.storedText? · t) =
      some (b.get t) := by
  unfold overridesIn at hb
  cases hget : Entries.get? records overridesName with
  | none =>
    rw [hget] at hb
    obtain rfl := Except.ok.inj hb
    cases t <;> rfl
  | some record =>
    rw [hget] at hb
    have hrecord := Json.orderedMembers_iff.mp h.2 _ ((Entries.mem_iff_get?_eq_some h.1).mpr hget)
    exact ((Breakpoints.ofJson_eq_ok_iff hrecord).mp hb).2 t

/-- A list of commands that store widths, each in a process of its own, works on a document that is
missing and may be created, or that holds an object. If the stored pair is decoded, the other
records can be read back and nothing on the disk keeps the commands from their work, then all
commands succeed. The pair that is stored after them has for each tier the width that was given
last, without the blanks around it, and where none was given the text that the first record held;
every other record is as it was; and the command that shows the pair in force shows for each tier
the stored width, or else the default that the hooks make. If the stored pair is not decoded, all
commands fail and the document is as it was. -/
theorem runSets_keeps_last_given (config : Config)
    (input : StateM FlakyDisk (Except IoError Content))
    (hproper : files.disk.Proper)
    (hfinds : Finds config.settings.path config.settings.create files.disk records)
    (hrun : (runSets fileSystem input config commands).run files = (results, files')) :
    (∀ first, overridesIn records = .ok first → OthersLegible records →
      Unhindered config commands files →
      (∀ result ∈ results, ∃ text, result = .ok text) ∧
      (∀ t, (Entries.get? records overridesName).elim (some "") (Breakpoints.storedText? · t) =
        some (first.get t)) ∧
      ∃ last records', Finds config.settings.path config.settings.create files'.disk records' ∧
        overridesIn records' = .ok last ∧
        (commands ≠ [] → Entries.get? records' overridesName = some last.toJson) ∧
        (∀ t, last.get t =
          ((commands.filterMap (·.given t)).getLast?.map Text.trimmed).getD (first.get t)) ∧
        (∀ name, name ≠ overridesName →
          Entries.get? records' name = Entries.get? records name) ∧
        ∀ process : Nat, ∃ shown members,
          ((CommandLine.run { fs := fileSystem, process := toString process, input } config
            .resolve).run files').1 = .ok shown ∧
          Json.read? shown = some (.object members) ∧
          ∀ t : Tier, Entries.get? members t.name = some (.text
            (if last.get t ≠ "" then last.get t
              else (Frontend.configHooks config).defaults.get t))) ∧
    (∀ e, overridesIn records = .error e →
      (∀ result ∈ results, ∃ failure, result = .error failure ∧
        (Styled config files.disk → ∃ cause, failure = .unreadableRecord cause)) ∧
      files'.disk.read config.settings.path = files.disk.read config.settings.path) := by
  refine ⟨fun first hfirst hothers hunhindered ↦ ?_, fun e he ↦ ?_⟩
  · obtain ⟨hall, hproper', hstyled', records', hfinds', hlast, hrecord, hsame⟩ :=
      hunhindered.run_runSets hproper hfinds hothers hfirst hrun
    refine ⟨hall, storedText?_of_overridesIn_eq_ok hfinds.ordered.1 hfirst, _, records', hfinds',
      hlast, fun hne ↦ hrecord (.inl hne), SetCommand.get_foldl_merged first commands, hsame,
      fun process ↦ ?_⟩
    obtain ⟨members, hmembers, hget⟩ := exists_read?_report (Frontend.configHooks config)
      ((Frontend.configHooks config).resolve (.pair (commands.foldl SetCommand.merged first)))
    refine ⟨_, members, run_resolve_of_decoded onDisk hproper' hfinds' hlast hstyled'
      (toString process), hmembers, fun t ↦ ?_⟩
    rw [hget, DefaultHooks.get_resolve]
    simp only [Breakpoints.isSet_iff]
    rfl
  · exact run_runSets_of_undecoded onDisk hproper hfinds he hrun

end Unhindered

/-! ### A document with a number -/

section Numbered

open Store

/-- Records with a number as one width and nothing as the other, and a record of another setting. -/
def numberedRecords : Entries Json :=
  [(overridesName, .object [("mobile", .null), ("tablet", .number (.int 1100))]),
    ("layout", .object [("wide", .bool true)])]

/-- A disk with a document of these records, on which no change fails. -/
def numberedFiles : FlakyDisk where
  disk := ({} : Disk).holding "rebreak-settings.json" (documentText numberedRecords) 0

/-- Two processes: the first one gives a width to the tablets, and the second one takes the width of
the mobiles back. -/
def numberedCommands : List SetCommand :=
  [{ process := 1, tablet := some "1200 " }, { process := 2, mobile := some "" }]

theorem proper_numberedFiles : numberedFiles.disk.Proper := by
  dsimp only [numberedFiles]
  exact Disk.proper_empty.of_reaches (Disk.reaches_holding _ _ _ _)

theorem finds_numberedRecords :
    Finds ({} : Config).settings.path ({} : Config).settings.create numberedFiles.disk
      numberedRecords := by
  have hlt : overridesName < "layout" := by decide
  have hnames : "mobile" < "tablet" := by decide
  have hordered : (Json.object numberedRecords).Ordered :=
    ⟨Entries.ordered_cons.mpr ⟨List.forall_mem_singleton.mpr hlt, List.pairwise_singleton _ _⟩,
      ⟨Entries.ordered_cons.mpr
          ⟨List.forall_mem_singleton.mpr hnames, List.pairwise_singleton _ _⟩, trivial,
        trivial, trivial⟩,
      ⟨List.pairwise_singleton _ _, trivial, trivial⟩, trivial⟩
  have hpath : ({} : Config).settings.path = "rebreak-settings.json" := rfl
  rw [hpath]
  dsimp only [numberedFiles]
  rw [finds_iff_of_read (Disk.read_holding (by decide +kernel) (by decide +kernel)),
    contains_documentText_iff hordered]
  exact ⟨by decide, by decide +kernel⟩

theorem othersLegible_numberedRecords : OthersLegible numberedRecords := by
  intro name record hname hrecord
  rw [numberedRecords, Entries.get?_cons, if_neg hname, Entries.get?_cons] at hrecord
  split at hrecord
  · obtain rfl := Option.some.inj hrecord
    exact ⟨trivial, trivial⟩
  · contradiction

theorem unhindered_numberedFiles : Unhindered {} numberedCommands numberedFiles := by
  refine ⟨nofun, nofun, fun command hcommand ↦ ?_⟩
  have hall : ∀ command ∈ numberedCommands, ((FileStep.runAll FlakyDisk.fileSystem
      (updateSteps ({} : Config).settings.path
        (tempPath ({} : Config).settings.path (toString command.process) 1) "")).run
          ((purge FlakyDisk.fileSystem ({} : Config).settings.path).run numberedFiles).2).1 =
            .ok () := by
    decide +kernel
  exact ⟨"", hall command hcommand⟩

/-- What the processes answer, and the files after them. -/
def numberedRun : List (Except CommandError String) × FlakyDisk :=
  (runSets FlakyDisk.fileSystem (pure (.error .notFound)) {} numberedCommands).run numberedFiles

/-- What another process shows after them. -/
def numberedShown : Except CommandError String :=
  let surroundings : Surroundings (StateM FlakyDisk) :=
    { fs := FlakyDisk.fileSystem, process := "3", input := pure (.error .notFound) }
  ((CommandLine.run surroundings {} .resolve).run numberedRun.2).1

/-- Both processes succeed. The record of another setting is kept, and a third process shows the
tablet width that was given and the default mobile width. -/
theorem runSets_of_numbered :
    (∀ result ∈ numberedRun.1, ∃ text, result = .ok text) ∧
      (∃ records', Finds "rebreak-settings.json" true numberedRun.2.disk records' ∧
        Entries.get? records' "layout" = Entries.get? numberedRecords "layout") ∧
      ∃ shown members, numberedShown = .ok shown ∧ Json.read? shown = some (.object members) ∧
        Entries.get? members "tablet" = some (.text "1200") ∧
        Entries.get? members "mobile" = some (.text "768") := by
  have hfirst : overridesIn numberedRecords = .ok { tablet := "1100", mobile := "" } := by
    decide +kernel
  have hrun : numberedRun = (numberedRun.1, numberedRun.2) := (Prod.eta _).symm
  nth_rewrite 1 [numberedRun] at hrun
  obtain ⟨hmain, -⟩ := runSets_keeps_last_given {} (pure (.error .notFound)) proper_numberedFiles
    finds_numberedRecords hrun
  obtain ⟨hall, -, last, records', hfinds, hlast, -, hget, hsame, hshown⟩ :=
    hmain _ hfirst othersLegible_numberedRecords unhindered_numberedFiles
  obtain ⟨shown, members, hresolve, hmembers, hwidth⟩ := hshown 3
  have htablet : last.get .tablet = "1200" := (hget .tablet).trans (by decide +kernel)
  have hmobile : last.get .mobile = "" := (hget .mobile).trans (by decide +kernel)
  refine ⟨hall, ⟨records', hfinds, hsame "layout" (by decide)⟩, shown, members, hresolve, hmembers,
    ?_, ?_⟩
  · have hget := hwidth .tablet
    rwa [htablet, if_pos (by decide)] at hget
  · have hget := hwidth .mobile
    have hdefault : (Frontend.configHooks {}).defaults.get .mobile = "768" := by decide +kernel
    rwa [hmobile, if_neg (by decide), hdefault] at hget

end Numbered

end Responsive.CommandLine

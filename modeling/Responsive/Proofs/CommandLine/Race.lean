import Responsive.Proofs.CommandLine.SetRuns

/-!
# Two processes that store widths

A process that stores widths loads the document, reads the stored pair from what it loaded, and
writes the whole document again. Nothing keeps another process from the document in the meantime. So
of two processes that both succeed, the one that writes last decides: what it writes is what it
makes of the pair that it loaded. It keeps the width of the other process if that had written the
document before this one loaded it; otherwise the width of the other process is lost.

* `SetCommand.run_advance_thrice`: the three steps of a process are the command.
* `replay_stored`: what loads and writes in any order leave of a pair.
* `Race.Good.step`: every step of a process does to the document what its access to it says.
* `Race.last_writer_decides`: the document after both processes succeeded.
-/

set_option autoImplicit false
set_option relaxedAutoImplicit false

namespace Responsive

/-- The other tier. -/
def Tier.other : Tier → Tier
  | tablet => mobile
  | mobile => tablet

namespace CommandLine

open Store

variable {σ : Type}

/-! ### The steps of a process -/

/-- How far a process that stores widths has come. -/
inductive Stage
  | fresh
  /-- The document is loaded. -/
  | loaded (frontend : Frontend)
  /-- The stored pair is read. -/
  | read (frontend : Frontend) (b : Breakpoints)
  | finished (result : Except CommandError String)

/-- What a process does with the document. -/
inductive Access
  | load
  | write
deriving DecidableEq, Repr

/-- What the next step of a process does with the document. -/
def Stage.access? : Stage → Option Access
  | fresh => some .load
  | read .. => some .write
  | loaded _ | finished _ => none

/-- Whether a process succeeded. -/
def Stage.isOk : Stage → Bool
  | finished (.ok _) => true
  | _ => false

theorem Stage.isOk_iff {stage : Stage} :
    stage.isOk = true ↔ ∃ text, stage = .finished (.ok text) := by
  rcases stage with _ | _ | _ | ⟨_ | text⟩ <;> simp [isOk]

namespace SetCommand

/-- The next step of a process: it loads the document, reads the stored pair, or saves what it makes
of the pair and reports the pair in force. -/
def advance {m : Type → Type} [Monad m] (fs : FileSystem m) (config : Config)
    (command : SetCommand) : Stage → m Stage
  | .fresh => do
    match ← Frontend.ofConfig fs (toString command.process) config with
    | .error e => return .finished (.error (.setup e))
    | .ok frontend => return .loaded frontend
  | .loaded frontend => do
    let (result, frontend) ← storedPair.run.run frontend
    match result with
    | .error e => return .finished (.error e)
    | .ok b => return .read frontend b
  | .read frontend b => do
    let write : Task m String := do
      save fs (command.merged b)
      resolve
    let (result, _) ← write.run.run frontend
    return .finished result
  | .finished result => return .finished result

section Advance

variable {fs : FileSystem (StateM σ)} {config : Config} {command : SetCommand} {s s' : σ}

theorem run_advance_fresh_of_error {e : FrontendError}
    (h : (Frontend.ofConfig fs (toString command.process) config).run s = (.error e, s')) :
    (command.advance fs config .fresh).run s = (.finished (.error (.setup e)), s') := by
  rw [advance, StateT.run_bind, h]
  rfl

theorem run_advance_fresh_of_ok {frontend : Frontend}
    (h : (Frontend.ofConfig fs (toString command.process) config).run s = (.ok frontend, s')) :
    (command.advance fs config .fresh).run s = (.loaded frontend, s') := by
  rw [advance, StateT.run_bind, h]
  rfl

theorem run_advance_loaded (frontend : Frontend) (s : σ) :
    (command.advance fs config (.loaded frontend)).run s =
      match frontend.store.getOrDefault Breakpoints.decoder overridesName with
      | .error e => (.finished (.error (.unreadableRecord e)), s)
      | .ok b => (.read frontend b, s) := by
  have hread := outcome_storedPair frontend s
  rw [outcome] at hread
  rw [advance, StateT.run_bind, hread]
  cases frontend.store.getOrDefault Breakpoints.decoder overridesName <;> rfl

theorem run_advance_loaded_of_decoded {frontend : Frontend} {b : Breakpoints}
    (h : frontend.store.getOrDefault Breakpoints.decoder overridesName = .ok b) (s : σ) :
    (command.advance fs config (.loaded frontend)).run s = (.read frontend b, s) := by
  rw [run_advance_loaded, h]

theorem run_advance_read {frontend frontend' : Frontend} {b : Breakpoints}
    {result : Except FrontendError Unit}
    (hsave : ((Frontend.saveBreakpoints fs (command.merged b)).run.run frontend).run s =
      ((result, frontend'), s')) :
    (command.advance fs config (.read frontend b)).run s =
      (.finished ((result.mapError .unsaved).map fun _ ↦
        report (resolution frontend'.site.hooks
          (frontend'.site.hooks.resolve frontend'.stored))), s') := by
  have hwrite : outcome (save fs (command.merged b) >>= fun _ ↦ resolve) frontend s =
      (((result.mapError .unsaved).map fun _ ↦ report (resolution frontend'.site.hooks
        (frontend'.site.hooks.resolve frontend'.stored)), frontend'), s') := by
    rw [outcome_bind, outcome_save hsave]
    cases result <;> rfl
  change (fun written ↦ (Stage.finished written.1.1, written.2))
    (outcome (save fs (command.merged b) >>= fun _ ↦ resolve) frontend s) = _
  rw [hwrite]

theorem run_advance_loaded_of_undecoded {frontend : Frontend} {e : SettingsError}
    (h : frontend.store.getOrDefault Breakpoints.decoder overridesName = .error e) (s : σ) :
    (command.advance fs config (.loaded frontend)).run s =
      (.finished (.error (.unreadableRecord e)), s) := by
  rw [run_advance_loaded, h]

/-- The three steps of a process, one right after the other, are the command. -/
theorem run_advance_thrice (input : StateM σ (Except IoError Content)) (s : σ) :
    (do let loaded ← command.advance fs config .fresh
        let read ← command.advance fs config loaded
        command.advance fs config read : StateM σ Stage).run s =
      let result := (command.run fs input config).run s
      (.finished result.1, result.2) := by
  rw [StateT.run_bind]
  rcases hsetup : (Frontend.ofConfig fs (toString command.process) config).run s with
    ⟨e | frontend, s₁⟩
  · rw [run_advance_fresh_of_error hsetup, SetCommand.run, run_of_not_set_up hsetup]
    rfl
  · rw [run_advance_fresh_of_ok hsetup]
    change ((command.advance fs config (.loaded frontend)) >>= command.advance fs config).run s₁ = _
    rw [StateT.run_bind, run_advance_loaded]
    cases hread : frontend.store.getOrDefault Breakpoints.decoder overridesName with
    | error e =>
      have hrun : (command.run fs input config).run s = _ :=
        run_of_set_up hsetup (outcome_setWidths_of_undecoded hread _ _)
      rw [hrun]
      rfl
    | ok b =>
      have hwidths : outcome (setWidths fs command.tablet command.mobile) frontend s₁ =
          outcome (save fs (command.merged b) >>= fun _ ↦ resolve) frontend s₁ := by
        rw [setWidths, outcome_bind, outcome_storedPair, hread]
        rfl
      have hrun : (command.run fs input config).run s = _ := run_of_set_up hsetup hwidths
      rw [hrun]
      rfl

end Advance

end SetCommand

/-! ### Loads and writes -/

/-- The accesses of the two processes to the document, in order. -/
abbrev Log := List (Tier × Access)

/-- The accesses of one process. -/
def accesses (t : Tier) (log : Log) : List Access :=
  log.filterMap fun entry ↦ if entry.1 = t then some entry.2 else none

/-- The pair in the document, and the pair that each process loaded last. -/
structure Copies where
  stored : Breakpoints
  loaded : Tier → Breakpoints

section Replay

variable (merged : Tier → Breakpoints → Breakpoints) (first : Breakpoints)

/-- What an access does to the pairs. -/
def Copies.note (copies : Copies) : Tier × Access → Copies
  | (t, .load) => { copies with loaded := Function.update copies.loaded t copies.stored }
  | (t, .write) => { copies with stored := merged t (copies.loaded t) }

/-- What accesses do to a pair, one after the other. -/
def replay (log : Log) : Copies :=
  log.foldl (Copies.note merged) { stored := first, loaded := fun _ ↦ first }

theorem replay_append (log : Log) (t : Tier) (access : Access) :
    replay merged first (log ++ [(t, access)]) =
      (replay merged first log).note merged (t, access) := by
  rw [replay, List.foldl_append]
  rfl

theorem accesses_append (u t : Tier) (log : Log) (access : Access) :
    accesses u (log ++ [(t, access)]) = accesses u log ++ if t = u then [access] else [] := by
  rw [accesses, List.filterMap_append]
  split
  next h => simp [accesses, h]
  next h => simp [accesses, h]

/-- The accesses of the tablet process and those of the mobile one, in some order. -/
inductive Interleaves : List Access → List Access → Log → Prop
  | nil : Interleaves [] [] []
  | tablet {a : Access} {as bs : List Access} {log : Log} (h : Interleaves as bs log) :
      Interleaves (a :: as) bs ((.tablet, a) :: log)
  | mobile {b : Access} {as bs : List Access} {log : Log} (h : Interleaves as bs log) :
      Interleaves as (b :: bs) ((.mobile, b) :: log)

theorem interleaves_accesses (log : Log) :
    Interleaves (accesses .tablet log) (accesses .mobile log) log := by
  induction log with
  | nil => exact .nil
  | cons entry log ih =>
    obtain ⟨t, a⟩ := entry
    cases t with
    | tablet => exact .tablet ih
    | mobile => exact .mobile ih

/-- One access comes before another one. -/
def Before (log : Log) (first second : Tier × Access) : Prop :=
  [first, second].Sublist log

instance (log : Log) (first second : Tier × Access) : Decidable (Before log first second) :=
  inferInstanceAs (Decidable ([first, second].Sublist log))

/-- If both processes load and write once, then the one that writes last decides: it puts its width
into the pair that it loaded, and that is the one that the other process had written, or else the
first one. -/
theorem replay_stored {log : Log} (h : ∀ t, accesses t log = [.load, .write]) :
    ∃ t : Tier, Before log (t.other, .write) (t, .write) ∧
      (replay merged first log).stored =
        merged t
          (if Before log (t.other, .write) (t, .load) then merged t.other first else first) := by
  have horder := interleaves_accesses log
  rw [h, h] at horder
  -- There are six orders of two accesses each.
  rcases horder with _ | horder | horder <;> rcases horder with _ | horder | horder <;>
    rcases horder with _ | horder | horder <;> rcases horder with _ | horder | horder <;>
    cases horder
  · exact ⟨.mobile, by decide, rfl⟩
  · exact ⟨.mobile, by decide, rfl⟩
  · exact ⟨.tablet, by decide, rfl⟩
  · exact ⟨.mobile, by decide, rfl⟩
  · exact ⟨.tablet, by decide, rfl⟩
  · exact ⟨.tablet, by decide, rfl⟩

end Replay

/-! ### The race -/

/-- The log with the access of one more step, if the step has one. -/
def logged (t : Tier) (log : Log) : Option Access → Log
  | none => log
  | some access => log ++ [(t, access)]

/-- Two processes that work on the same files, each for its tier, and their accesses to the document
so far. -/
structure Race (σ : Type) where
  files : σ
  stages : Tier → Stage := fun _ ↦ .fresh
  log : Log := []

namespace Race

section Step

variable (fs : FileSystem (StateM σ)) (config : Config) (commands : Tier → SetCommand)

/-- The process for a tier takes one step. -/
def step (race : Race σ) (t : Tier) : Race σ :=
  let (stage, files) := ((commands t).advance fs config (race.stages t)).run race.files
  { files
    stages := Function.update race.stages t stage
    log := logged t race.log (race.stages t).access? }

/-- The processes take steps in the given order. -/
def run (race : Race σ) (schedule : List Tier) : Race σ :=
  schedule.foldl (step fs config commands) race

end Step

/-- A process failed. -/
def Failed (race : Race σ) : Prop :=
  ∃ t e, race.stages t = .finished (.error e)

/-- Both processes report success. -/
def Succeeded (race : Race σ) : Prop :=
  ∀ t, (race.stages t).isOk = true

/-- Every record other than the overrides that is read back from its text is still the same. -/
def Kept (original records : Entries Json) : Prop :=
  ∀ name, name ≠ overridesName →
    (∀ record, Entries.get? original name = some record → record.Legible) →
    Entries.get? records name = Entries.get? original name

theorem Kept.othersLegible {original records : Entries Json} (h : Kept original records)
    (horiginal : OthersLegible original) : OthersLegible records := by
  intro name record hname hrecord
  have hsame := h name hname fun _ ↦ horiginal name _ hname
  exact horiginal name record hname (hsame ▸ hrecord)

section Good

variable (view : σ → Disk) (config : Config) (commands : Tier → SetCommand) (start : Disk)
  (first : Breakpoints)

/-- Records with a pair among them, if the document held the first pair in the beginning. -/
structure Holds (b : Breakpoints) (records : Entries Json) : Prop where
  decoded : overridesIn records = .ok b
  origin : ∃ original, Finds config.settings.path config.settings.create start original ∧
    overridesIn original = .ok first ∧ Kept original records

/-- A process wrote the document: it put a pair into the records that it had loaded. -/
def Wrote (b : Breakpoints) (disk : Disk) : Prop :=
  ∃ (before : Disk) (b' : Breakpoints) (records : Entries Json),
    Finds config.settings.path config.settings.create before records ∧
      Holds config start first b' records ∧
      disk.read config.settings.path =
        .ok (.text (documentText (Entries.insert overridesName b.toJson records)))

/-- What is known of the stage of a process by its accesses to the document, if it did not fail: it
works with records of the document, and if they hold any pair, then that is the one that it
loaded. -/
inductive Stands (process : Nat) (b : Breakpoints) : List Access → Stage → Prop
  | fresh : Stands process b [] .fresh
  | loaded {delivery : Delivery} {disk : Disk} {records : Entries Json}
      (found : Finds config.settings.path config.settings.create disk records)
      (h : ∀ b', overridesIn records = .ok b' → Holds config start first b records) :
      Stands process b [.load]
        (.loaded
          (.ofStore config delivery (.opened (toString process) config.settings.path records)))
  | read {delivery : Delivery} {disk : Disk} {records : Entries Json}
      (found : Finds config.settings.path config.settings.create disk records)
      (h : Holds config start first b records) :
      Stands process b [.load]
        (.read
          (.ofStore config delivery (.opened (toString process) config.settings.path records)) b)
  | finished (text : String) : Stands process b [.load, .write] (.finished (.ok text))

/-- The pairs that accesses leave. -/
def copies (log : Log) : Copies :=
  replay (fun t b ↦ (commands t).merged b) first log

section Copies

variable (log : Log) (t : Tier)

theorem stored_copies_load :
    (copies commands first (log ++ [(t, .load)])).stored = (copies commands first log).stored := by
  rw [copies, replay_append]
  rfl

theorem stored_copies_write :
    (copies commands first (log ++ [(t, .write)])).stored =
      (commands t).merged ((copies commands first log).loaded t) := by
  rw [copies, replay_append]
  rfl

theorem loaded_copies_load :
    (copies commands first (log ++ [(t, .load)])).loaded t =
      (copies commands first log).stored := by
  rw [copies, replay_append]
  exact Function.update_self _ _ _

end Copies

/-- The document after some accesses: if it holds a pair, then the one that they leave. -/
structure Follows (log : Log) (disk : Disk) : Prop where
  proper : disk.Proper
  settled : disk.Settled config.settings.path
  found : ∀ records, Finds config.settings.path config.settings.create disk records →
    ∀ b, overridesIn records = .ok b →
      Holds config start first (copies commands first log).stored records
  written : ∀ t, (t, .write) ∈ log →
    Wrote config start first (copies commands first log).stored disk

/-- A race in which no process failed: the document and the processes hold the pairs that the
accesses leave. -/
structure Good (race : Race σ) : Prop where
  document : Follows config commands start first race.log (view race.files)
  stands : ∀ t, Stands config start first (commands t).process
    ((copies commands first race.log).loaded t) (accesses t race.log) (race.stages t)

variable {view config commands start first} {fs : FileSystem (StateM σ)} {race : Race σ}
  {t : Tier} {stage stage' : Stage} {s' : σ}

/-- A pair that is put into records takes the place of the one that they hold. -/
theorem Holds.insert {records : Entries Json} {b : Breakpoints}
    (h : Holds config start first b records) (b' : Breakpoints) :
    Holds config start first b' (Entries.insert overridesName b'.toJson records) := by
  obtain ⟨original, horiginal, hfirst, hkept⟩ := h.origin
  refine ⟨overridesIn_insert b' records, original, horiginal, hfirst, fun name hname hlegible ↦ ?_⟩
  rw [Entries.get?_insert, if_neg hname, hkept name hname hlegible]

/-- A document that a process wrote holds the pair that it put into it. -/
theorem Wrote.holds {b : Breakpoints} {disk : Disk} {found : Entries Json}
    (h : Wrote config start first b disk)
    (hfound : Finds config.settings.path config.settings.create disk found) :
    Holds config start first b found := by
  obtain ⟨before, b', records, hfinds, hholds, hread⟩ := h
  obtain ⟨original, horiginal, hfirst, hkept⟩ := hholds.origin
  obtain ⟨hdecoded, hothers⟩ := hfinds.of_insert_overrides b hread hfound
  refine ⟨hdecoded, original, horiginal, hfirst, fun name hname hlegible ↦ ?_⟩
  have hsame := hkept name hname hlegible
  rw [hothers name hname fun record hrecord ↦ hlegible record (hsame ▸ hrecord), hsame]

theorem Follows.of_read_eq {log : Log} {disk disk' : Disk}
    (h : Follows config commands start first log disk) (hproper : disk'.Proper)
    (hread : disk'.read config.settings.path = disk.read config.settings.path) :
    Follows config commands start first log disk' where
  proper := hproper
  settled := by rw [Disk.Settled, hread]; exact h.settled
  found records hfinds := h.found records (hfinds.of_read_eq hread.symm)
  written t hlog := by rw [Wrote, hread]; exact h.written t hlog

/-- A load leaves the document as it is. -/
theorem Follows.load {log : Log} {disk : Disk} (h : Follows config commands start first log disk)
    (t : Tier) : Follows config commands start first (log ++ [(t, .load)]) disk := by
  refine ⟨h.proper, h.settled, ?_, fun u hlog ↦ ?_⟩
  · rw [stored_copies_load]
    exact h.found
  · rw [stored_copies_load]
    exact h.written u (by simpa using hlog)

/-- A write puts its pair into the document. -/
theorem Follows.write {log : Log} {disk : Disk} {t : Tier}
    (hproper : disk.Proper)
    (hwrote : Wrote config start first
      ((commands t).merged ((copies commands first log).loaded t)) disk) :
    Follows config commands start first (log ++ [(t, .write)]) disk := by
  have hsettled : disk.Settled config.settings.path := by
    obtain ⟨before, b', records, -, -, hread⟩ := hwrote
    exact .inr ⟨_, hread⟩
  rw [← stored_copies_write] at hwrote
  exact ⟨hproper, hsettled, fun records hfinds _ _ ↦ hwrote.holds hfinds, fun _ _ ↦ hwrote⟩

theorem step_eq (hstage : race.stages t = stage)
    (hadvance : ((commands t).advance fs config stage).run race.files = (stage', s')) :
    race.step fs config commands t =
      { files := s'
        stages := Function.update race.stages t stage'
        log := logged t race.log stage.access? } := by
  rw [step, hstage, hadvance]

/-- A failure is final. -/
theorem Failed.step (h : race.Failed) (t : Tier) : (race.step fs config commands t).Failed := by
  obtain ⟨u, e, hu⟩ := h
  refine ⟨u, e, ?_⟩
  by_cases hut : u = t
  · subst hut
    rw [step_eq hu rfl]
    exact Function.update_self _ _ _
  · exact (Function.update_of_ne hut _ _).trans hu

variable (commands first) in
/-- What the access of a process means for the other one: nothing. -/
theorem accesses_logged_of_ne {u : Tier} (h : u ≠ t) (log : Log) (access : Option Access) :
    accesses u (logged t log access) = accesses u log ∧
      (copies commands first (logged t log access)).loaded u =
        (copies commands first log).loaded u := by
  cases access with
  | none => exact ⟨rfl, rfl⟩
  | some access =>
    rw [logged, accesses_append, if_neg (Ne.symm h), List.append_nil, copies, replay_append]
    refine ⟨rfl, ?_⟩
    cases access with
    | load => exact Function.update_of_ne h _ _
    | write => rfl

/-- A step of one process leaves the other one where it was. -/
theorem Good.next (h : race.Good view config commands start first) (access : Option Access)
    (hdocument : Follows config commands start first (logged t race.log access) (view s'))
    (hstands : Stands config start first (commands t).process
      ((copies commands first (logged t race.log access)).loaded t)
      (accesses t (logged t race.log access)) stage') :
    Good view config commands start first
      { files := s'
        stages := Function.update race.stages t stage'
        log := logged t race.log access } := by
  refine ⟨hdocument, fun u ↦ ?_⟩
  dsimp only
  by_cases hut : u = t
  · subst hut
    rwa [Function.update_self]
  · obtain ⟨haccesses, hloaded⟩ :=
      accesses_logged_of_ne commands first hut race.log access
    rw [Function.update_of_ne hut, haccesses, hloaded]
    exact h.stands u

/-- Every step of a process does to the document what its access says, unless the process fails. -/
theorem Good.step (hfs : fs.OnDisk view) (h : race.Good view config commands start first)
    (t : Tier) :
    (race.step fs config commands t).Failed ∨
      (race.step fs config commands t).Good view config commands start first := by
  have hstands := h.stands t
  generalize hstage : race.stages t = stage at hstands
  generalize howned : accesses t race.log = owned at hstands
  have hfailed {e : CommandError} {s' : σ}
      (hadvance : ((commands t).advance fs config stage).run race.files =
        (.finished (.error e), s')) : (race.step fs config commands t).Failed := by
    rw [step_eq hstage hadvance]
    exact ⟨t, e, Function.update_self _ _ _⟩
  -- The stage of the process that steps says what the step can do to the document.
  cases hstands with
  | fresh =>
    obtain ⟨s', hproper', hread, ⟨e, hsetup⟩ | ⟨records, delivery, hfinds, hsetup⟩⟩ :=
      Frontend.run_ofConfig_of_settled hfs (toString (commands t).process) config
        h.document.proper h.document.settled
    · exact .inl (hfailed (SetCommand.run_advance_fresh_of_error hsetup))
    · right
      rw [step_eq hstage (SetCommand.run_advance_fresh_of_ok hsetup)]
      refine h.next (some .load) ((h.document.of_read_eq hproper' hread).load t) ?_
      rw [logged, accesses_append, if_pos rfl, howned, loaded_copies_load]
      exact .loaded hfinds (h.document.found records hfinds)
  | @loaded delivery _ records hfound hheld =>
    cases hdecoded : overridesIn records with
    | error e =>
      obtain ⟨cause, hcause⟩ := exists_getOrDefault_opened hdecoded
      exact .inl (hfailed (SetCommand.run_advance_loaded_of_undecoded hcause _))
    | ok b' =>
      right
      rw [step_eq hstage (SetCommand.run_advance_loaded_of_decoded
        (getOrDefault_opened (hheld b' hdecoded).decoded) _)]
      refine h.next none h.document ?_
      rw [logged, howned]
      exact .read hfound (hheld b' hdecoded)
  | @read delivery before records hfound hheld =>
    obtain ⟨s', hproper', ⟨store, hsave, -, -, hwritten⟩ | ⟨e, frontend, hsave, -⟩⟩ :=
      Frontend.run_saveBreakpoints_ofStore hfs (not_slash_of_mem_toString (commands t).process)
        config delivery records ((commands t).merged ((copies commands first race.log).loaded t))
        h.document.proper
    · right
      rw [step_eq hstage (SetCommand.run_advance_read hsave)]
      refine h.next (some .write)
        (Follows.write hproper' ⟨before, _, records, hfound, hheld, hwritten⟩) ?_
      rw [logged, accesses_append, if_pos rfl, howned]
      exact .finished _
    · exact .inl (hfailed (SetCommand.run_advance_read hsave))
  | finished text =>
    right
    rw [step_eq hstage rfl]
    refine h.next none h.document ?_
    rw [logged, howned]
    exact .finished text

theorem Good.run (hfs : fs.OnDisk view) (h : race.Good view config commands start first)
    (schedule : List Tier) :
    (race.run fs config commands schedule).Failed ∨
      (race.run fs config commands schedule).Good view config commands start first := by
  have hfailed (schedule : List Tier) {race : Race σ} (h : race.Failed) :
      (race.run fs config commands schedule).Failed := by
    induction schedule generalizing race with
    | nil => exact h
    | cons t schedule ih => exact ih (h.step t)
  induction schedule generalizing race with
  | nil => exact .inr h
  | cons t schedule ih =>
    rcases h.step hfs t with hfirst | hgood
    · exact .inl (hfailed schedule hfirst)
    · exact ih hgood

theorem Succeeded.accesses_eq (h : race.Succeeded)
    (hgood : race.Good view config commands start first) (t : Tier) :
    accesses t race.log = [.load, .write] := by
  obtain ⟨text, htext⟩ := Stage.isOk_iff.mp (h t)
  have hstands := hgood.stands t
  rw [htext] at hstands
  generalize accesses t race.log = owned at hstands ⊢
  cases hstands
  rfl

end Good

/-- A document holds no more than one pair. -/
theorem exists_first (path : String) (create : Bool) (disk : Disk) :
    ∃ first, ∀ records b, Finds path create disk records → overridesIn records = .ok b →
      b = first := by
  by_cases h : ∃ records b, Finds path create disk records ∧ overridesIn records = .ok b
  · obtain ⟨records, b, hfinds, hdecoded⟩ := h
    refine ⟨b, fun records' b' hfinds' hdecoded' ↦ ?_⟩
    rw [hfinds'.unique hfinds, hdecoded] at hdecoded'
    exact (Except.ok.inj hdecoded').symm
  · exact ⟨{}, fun records b hfinds hdecoded ↦ absurd ⟨records, b, hfinds, hdecoded⟩ h⟩

/-- What both processes leave behind if they succeed: what the one that wrote last made of the pair
that it loaded, which was that of the other one or the first one. -/
theorem exists_last_writer {fs : FileSystem (StateM σ)} {view : σ → Disk} (hfs : fs.OnDisk view)
    (config : Config) {files : σ} (hproper : (view files).Proper)
    (hsettled : (view files).Settled config.settings.path) (commands : Tier → SetCommand)
    (schedule : List Tier) (hdone : (run fs config commands { files } schedule).Succeeded) :
    let race := run fs config commands { files } schedule
    ∃ (first : Breakpoints) (t : Tier), Before race.log (t.other, .write) (t, .write) ∧
      Wrote config (view files) first
        ((commands t).merged (if Before race.log (t.other, .write) (t, .load) then
          (commands t.other).merged first else first)) (view race.files) := by
  obtain ⟨first, hfirst⟩ :=
    exists_first config.settings.path config.settings.create (view files)
  have hstart : Good view config commands (view files) first { files } := by
    refine ⟨⟨hproper, hsettled, fun records hfinds b hdecoded ↦ ?_, nofun⟩, fun _ ↦ .fresh⟩
    obtain rfl := hfirst records b hfinds hdecoded
    exact ⟨hdecoded, records, hfinds, hdecoded, fun _ _ _ ↦ rfl⟩
  rcases hstart.run hfs schedule with ⟨t, e, hfailed⟩ | hgood
  · obtain ⟨text, htext⟩ := Stage.isOk_iff.mp (hdone t)
    exact absurd (hfailed.symm.trans htext) nofun
  · obtain ⟨t, hlast, hstored⟩ := replay_stored (fun t b ↦ (commands t).merged b) first
      (hdone.accesses_eq hgood)
    have hwrote := hgood.document.written t (hlast.subset (by simp))
    rw [copies, hstored] at hwrote
    exact ⟨first, t, hlast, hwrote⟩

end Race

/-- A command that stores a width for one tier only. -/
def SetCommand.giving (process : Nat) (width : String) : Tier → SetCommand
  | .tablet => { process, tablet := some width }
  | .mobile => { process, mobile := some width }

theorem SetCommand.get_merged_giving (process : Nat) (width : String) (b : Breakpoints)
    (t u : Tier) :
    ((giving process width t).merged b).get u = if u = t then Text.trimmed width else b.get u := by
  cases t <;> cases u <;> rfl

namespace Race

/-- Two processes store a width for one tier each, in any order of their steps. If both succeed,
then the document held a pair in the beginning, and the process that wrote last decides: its own
width is stored, and for the other tier the width of the other process if that had written the
document before this one loaded it, and otherwise what the document held for it in the beginning.
Whoever opens the document finds that pair, and every other record that is read back from its
text. -/
theorem last_writer_decides (config : Config) {files : FlakyDisk} (hproper : files.disk.Proper)
    (hsettled : files.disk.Settled config.settings.path) (processes : Tier → Nat)
    (widths : Tier → String) (schedule : List Tier)
    (hdone : (run FlakyDisk.fileSystem config (fun t ↦ .giving (processes t) (widths t) t) { files }
      schedule).Succeeded) :
    let race := run FlakyDisk.fileSystem config (fun t ↦ .giving (processes t) (widths t) t)
      { files } schedule
    ∃ (original records : Entries Json) (first last : Breakpoints) (t : Tier),
      Finds config.settings.path config.settings.create files.disk original ∧
      overridesIn original = .ok first ∧
      race.files.disk.read config.settings.path = .ok (.text (documentText records)) ∧
      overridesIn records = .ok last ∧
      (∀ found, Finds config.settings.path config.settings.create race.files.disk found →
        overridesIn found = .ok last ∧ Kept original found) ∧
      (OthersLegible original →
        Finds config.settings.path config.settings.create race.files.disk records) ∧
      Before race.log (t.other, .write) (t, .write) ∧
      last.get t = Text.trimmed (widths t) ∧
      (Before race.log (t.other, .write) (t, .load) →
        last.get t.other = Text.trimmed (widths t.other)) ∧
      (¬ Before race.log (t.other, .write) (t, .load) →
        last.get t.other = first.get t.other) := by
  intro race
  obtain ⟨first, t, hlast, hwrote⟩ :=
    exists_last_writer FlakyDisk.onDisk config hproper hsettled _ schedule hdone
  have hne : t.other ≠ t := by cases t <;> decide
  obtain ⟨before, b, records, hfinds, hholds, hread⟩ := id hwrote
  obtain ⟨original, horiginal, hfirst, hkept⟩ := hholds.origin
  refine ⟨original, _, first, _, t, horiginal, hfirst, hread, (hholds.insert _).decoded,
    fun found hfound ↦ ?_, fun hothers ↦ ?_, hlast, ?_, fun hbefore ↦ ?_, fun hbefore ↦ ?_⟩
  · obtain ⟨hdecoded, original', horiginal', -, hkept'⟩ := hwrote.holds hfound
    exact ⟨hdecoded, horiginal'.unique horiginal ▸ hkept'⟩
  · exact hfinds.insert_overrides (hkept.othersLegible hothers) _ hread
  · rw [SetCommand.get_merged_giving, if_pos rfl]
  · rw [SetCommand.get_merged_giving, if_neg hne, if_pos hbefore, SetCommand.get_merged_giving,
      if_pos rfl]
  · rw [SetCommand.get_merged_giving, if_neg hne, if_neg hbefore]

/-- A tablet width of 1200 and a mobile width of 600, given by two processes. -/
def raceOf (schedule : List Tier) : Race FlakyDisk :=
  run FlakyDisk.fileSystem {}
    (fun t ↦ .giving (if t = .tablet then 1 else 2) (if t = .tablet then "1200" else " 600") t)
    { files := {} } schedule

theorem finds_raceOf :
    Finds ({} : Config).settings.path ({} : Config).settings.create ({} : FlakyDisk).disk [] :=
  .inl ⟨by decide +kernel, rfl, rfl⟩

/-- Which processes succeeded, and the accesses to the document. -/
def summary (race : Race σ) : Bool × Bool × Log :=
  ((race.stages .tablet).isOk, (race.stages .mobile).isOk, race.log)

theorem succeeded_of_summary {race : Race σ} {log : Log} (h : race.summary = (true, true, log)) :
    race.Succeeded ∧ race.log = log := by
  obtain ⟨htablet, hrest⟩ := Prod.mk.inj h
  obtain ⟨hmobile, hlog⟩ := Prod.mk.inj hrest
  refine ⟨fun t ↦ ?_, hlog⟩
  cases t with
  | tablet => exact htablet
  | mobile => exact hmobile

/-- The tablet process is done before the mobile one begins. -/
def inTurn : List Tier :=
  [.tablet, .tablet, .tablet, .mobile, .mobile, .mobile]

/-- Both processes load the document before one of them writes it. -/
def overlapping : List Tier :=
  [.tablet, .mobile, .tablet, .tablet, .mobile, .mobile]

theorem summary_inTurn : (raceOf inTurn).summary =
    (true, true, [(.tablet, .load), (.tablet, .write), (.mobile, .load), (.mobile, .write)]) := by
  decide +kernel

theorem summary_overlapping : (raceOf overlapping).summary =
    (true, true, [(.tablet, .load), (.mobile, .load), (.tablet, .write), (.mobile, .write)]) := by
  decide +kernel

/-- One process after the other: both widths are stored. -/
theorem last_writer_decides_inTurn :
    (raceOf inTurn).Succeeded ∧ ∃ last records,
      (raceOf inTurn).files.disk.read "rebreak-settings.json" =
        .ok (.text (documentText records)) ∧
      overridesIn records = .ok last ∧ last.get .tablet = "1200" ∧ last.get .mobile = "600" := by
  have hall (schedule : List Tier) (hdone : (raceOf schedule).Succeeded)
      (hlast : ¬ Before (raceOf schedule).log (.mobile, .write) (.tablet, .write))
      (hturn : Before (raceOf schedule).log (.tablet, .write) (.mobile, .load)) :
      ∃ last records, (raceOf schedule).files.disk.read "rebreak-settings.json" =
          .ok (.text (documentText records)) ∧
        overridesIn records = .ok last ∧ last.get .tablet = "1200" ∧ last.get .mobile = "600" := by
    obtain ⟨-, records, -, last, t, -, -, hread, hdecoded, -, -, hbefore, hown, hother, -⟩ :=
      last_writer_decides {} Disk.proper_empty finds_raceOf.settled _ _ schedule hdone
    cases t with
    | tablet => exact absurd hbefore hlast
    | mobile => exact ⟨last, records, hread, hdecoded, hother hturn, hown.trans (by decide)⟩
  obtain ⟨hdone, hlog⟩ := succeeded_of_summary summary_inTurn
  refine ⟨hdone, hall inTurn hdone ?_ ?_⟩
  · rw [hlog]
    decide
  · rw [hlog]
    decide

/-- Of two processes that both loaded the document before one of them wrote it, one loses its
width. -/
theorem not_forall_succeeded_stores_both :
    ¬ ∀ schedule, (raceOf schedule).Succeeded → ∃ last records,
      Finds "rebreak-settings.json" true (raceOf schedule).files.disk records ∧
      overridesIn records = .ok last ∧ last.get .tablet = "1200" ∧ last.get .mobile = "600" := by
  intro h
  have hall (schedule : List Tier) (hdone : (raceOf schedule).Succeeded)
      (hlast : ¬ Before (raceOf schedule).log (.mobile, .write) (.tablet, .write))
      (hoverlap : ¬ Before (raceOf schedule).log (Tier.mobile.other, .write) (.mobile, .load))
      {records : Entries Json}
      (hfinds : Finds "rebreak-settings.json" true (raceOf schedule).files.disk records) :
      ∃ first, overridesIn [] = .ok first ∧
        overridesIn records = .ok (withGiven first none (some " 600")) := by
    obtain ⟨first, t, hbefore, hwrote⟩ := exists_last_writer FlakyDisk.onDisk {} Disk.proper_empty
      finds_raceOf.settled _ schedule hdone
    cases t with
    | tablet => exact absurd hbefore hlast
    | mobile =>
      unfold raceOf at hoverlap
      rw [if_neg hoverlap] at hwrote
      obtain ⟨hdecoded, original, horiginal, hfirst, -⟩ := hwrote.holds hfinds
      exact ⟨first, horiginal.unique finds_raceOf ▸ hfirst, hdecoded⟩
  obtain ⟨hdone, hlog⟩ := succeeded_of_summary summary_overlapping
  obtain ⟨last, records, hfinds, hdecoded, htablet, -⟩ := h overlapping hdone
  obtain ⟨first, hfirst, hdecoded'⟩ :=
    hall overlapping hdone (by rw [hlog]; decide) (by rw [hlog]; decide) hfinds
  obtain rfl := Except.ok.inj hfirst
  rw [hdecoded'] at hdecoded
  obtain rfl := Except.ok.inj hdecoded
  exact absurd htablet (by decide)

end Race

end CommandLine

end Responsive

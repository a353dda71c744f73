import Responsive.Proofs.Settings.Update

/-!
# The steps of an update

A store writes its document in steps: it makes the directory of the document, makes a new file
beside it, writes the text, sees to it that the text has reached the disk, and moves the file over
the document. The steps are listed here apart from the store that takes them. An update of a store
takes them one after the other, and if it fails for the files, then it is one of these steps that
failed, and the error says which.

* `updateSteps`: the steps.
* `takes_persist`: writing the document takes these steps.
* `outcome_commit_cases`: taking over new records succeeds or fails with them.
-/

set_option autoImplicit false
set_option relaxedAutoImplicit false

namespace Responsive

variable {σ α β : Type}

/-- A step that changes files. -/
inductive FileStep
  /-- Makes a directory and those that it stands in. -/
  | makeDirs (dir : String)
  | createNew (path : String)
  | write (path text : String)
  | sync (path : String)
  | rename (old new : String)
deriving DecidableEq, Repr

namespace FileStep

/-- Takes the step. -/
def run (fs : FileSystem (StateM σ)) : FileStep → StateM σ (Except IoError Unit)
  | makeDirs dir => fs.makeDirs dir
  | createNew path => fs.createNew path
  | write path text => fs.write path text
  | sync path => fs.sync path
  | rename old new => fs.rename old new

/-- Takes steps one after the other, up to the first one that fails; that one is returned with its
error. -/
def runAll (fs : FileSystem (StateM σ)) :
    List FileStep → StateM σ (Except (FileStep × IoError) Unit)
  | [] => return .ok ()
  | step :: steps => do
    match ← step.run fs with
    | .ok () => runAll fs steps
    | .error cause => return .error (step, cause)

/-- What is done about a step that failed: a file that could not be moved is removed. -/
def undo (fs : FileSystem (StateM σ)) : FileStep → StateM σ Unit
  | rename old _ => discard (fs.remove old)
  | _ => return ()

/-- The remark on a step that failed. -/
def remark : FileStep → String
  | makeDirs dir => s!"Failed to create settings directory: {dir}"
  | createNew path => s!"Temp creation failed: {path}"
  | write .. => "Write failed"
  | sync _ => "Hardware sync failed"
  | rename old new => s!"Atomic swap failed: {old} -> {new}"

/-- The error of a step that failed. -/
def failure (step : FileStep) (cause : IoError) : SettingsError where
  cause := .io cause
  context := some step.remark

/-! ### Steps one after the other -/

section RunAll

variable {fs : FileSystem (StateM σ)} {step : FileStep} {steps others : List FileStep}
  {s mid s' : σ}

theorem run_runAll_cons_of_ok (h : (step.run fs).run s = (.ok (), mid)) :
    (runAll fs (step :: steps)).run s = (runAll fs steps).run mid := by
  rw [runAll, StateT.run_bind, h]
  rfl

theorem run_runAll_cons_of_error {cause : IoError}
    (h : (step.run fs).run s = (.error cause, mid)) :
    (runAll fs (step :: steps)).run s = (.error (step, cause), mid) := by
  rw [runAll, StateT.run_bind, h]
  rfl

/-- The first step fails, or the others are taken after it. -/
theorem run_runAll_cons_cases (fs : FileSystem (StateM σ)) (step : FileStep)
    (steps : List FileStep) (s : σ) :
    (∃ mid, (step.run fs).run s = (.ok (), mid) ∧
        (runAll fs (step :: steps)).run s = (runAll fs steps).run mid) ∨
      ∃ cause mid, (step.run fs).run s = (.error cause, mid) ∧
        (runAll fs (step :: steps)).run s = (.error (step, cause), mid) := by
  cases h : (step.run fs).run s with
  | mk answer mid =>
    cases answer with
    | ok _ => exact .inl ⟨mid, rfl, run_runAll_cons_of_ok h⟩
    | error cause => exact .inr ⟨cause, mid, rfl, run_runAll_cons_of_error h⟩

/-- If all steps succeed, the first one does, and the others do after it. -/
theorem exists_of_run_runAll_cons (h : (runAll fs (step :: steps)).run s = (.ok (), s')) :
    ∃ mid, (step.run fs).run s = (.ok (), mid) ∧ (runAll fs steps).run mid = (.ok (), s') := by
  rcases run_runAll_cons_cases fs step steps s with ⟨mid, hstep, hrun⟩ | ⟨cause, mid, -, hrun⟩
  · exact ⟨mid, hstep, hrun.symm.trans h⟩
  · exact absurd (congrArg Prod.fst (hrun.symm.trans h)) nofun

/-- If a step fails, it is the first one, or one of the others after it. -/
theorem run_runAll_cons_error_cases {failed : FileStep} {cause : IoError}
    (h : (runAll fs (step :: steps)).run s = (.error (failed, cause), s')) :
    (failed = step ∧ (step.run fs).run s = (.error cause, s')) ∨
      ∃ mid, (step.run fs).run s = (.ok (), mid) ∧
        (runAll fs steps).run mid = (.error (failed, cause), s') := by
  rcases run_runAll_cons_cases fs step steps s with
    ⟨mid, hstep, hrun⟩ | ⟨cause', mid, hstep, hrun⟩
  · exact .inr ⟨mid, hstep, hrun.symm.trans h⟩
  · obtain ⟨hfailed, rfl⟩ := Prod.mk.inj (hrun.symm.trans h)
    obtain ⟨rfl, rfl⟩ := Prod.mk.inj (Except.error.inj hfailed)
    exact .inl ⟨rfl, hstep⟩

/-- Steps that succeed are followed by the others. -/
theorem run_runAll_append_of_ok (h : (runAll fs steps).run s = (.ok (), mid)) :
    (runAll fs (steps ++ others)).run s = (runAll fs others).run mid := by
  induction steps generalizing s with
  | nil =>
    obtain ⟨-, rfl⟩ := Prod.mk.inj h
    rfl
  | cons step steps ih =>
    obtain ⟨next, hstep, hrest⟩ := exists_of_run_runAll_cons h
    rw [List.cons_append, run_runAll_cons_of_ok hstep]
    exact ih hrest

/-- A step that fails is followed by no other. -/
theorem run_runAll_append_of_error {cause : IoError}
    (h : (runAll fs steps).run s = (.error (step, cause), mid)) :
    (runAll fs (steps ++ others)).run s = (.error (step, cause), mid) := by
  induction steps generalizing s with
  | nil => exact absurd (congrArg Prod.fst h) nofun
  | cons first steps ih =>
    rcases run_runAll_cons_error_cases h with ⟨rfl, hstep⟩ | ⟨next, hstep, hrest⟩
    · exact run_runAll_cons_of_error hstep
    · rw [List.cons_append, run_runAll_cons_of_ok hstep]
      exact ih hrest

/-- If all steps succeed, the first ones do. -/
theorem exists_of_run_runAll_append (h : (runAll fs (steps ++ others)).run s = (.ok (), s')) :
    ∃ mid, (runAll fs steps).run s = (.ok (), mid) ∧
      (runAll fs others).run mid = (.ok (), s') := by
  induction steps generalizing s with
  | nil => exact ⟨s, rfl, h⟩
  | cons step steps ih =>
    obtain ⟨next, hstep, hrest⟩ := exists_of_run_runAll_cons h
    obtain ⟨mid, hfirst, hothers⟩ := ih hrest
    exact ⟨mid, (run_runAll_cons_of_ok hstep).trans hfirst, hothers⟩

end RunAll

end FileStep

namespace Store

open FileStep (runAll)

/-- The step that makes the directory of a document, if the path of the document has one. -/
def parentSteps (path : String) : List FileStep :=
  match Path.parent? path with
  | none => []
  | some parent => if parent.isEmpty then [] else [.makeDirs parent]

/-- The steps that bring a text into a document by way of a temporary file. -/
def replaceSteps (path temp text : String) : List FileStep :=
  [.createNew temp, .write temp text, .sync temp, .rename temp path]

/-- The steps of an update of a document. -/
def updateSteps (path temp text : String) : List FileStep :=
  parentSteps path ++ replaceSteps path temp text

/-! ### Updates that take steps -/

theorem outcome_lift_bind (op : StateM σ α) (next : α → Update (StateM σ) β) (store : Store)
    (s : σ) :
    outcome ((liftM op : Update (StateM σ) α) >>= next) store s =
      outcome (next (op.run s).1) store (op.run s).2 := by
  rw [outcome_bind]
  rfl

theorem outcome_attempt (context : String) (op : StateM σ (Except IoError α)) (store : Store)
    (s : σ) :
    outcome (attempt context op) store s =
      (((op.run s).1.mapError fun e ↦ { cause := .io e, context := some context }, store),
        (op.run s).2) := by
  rw [attempt, outcome_lift_bind]
  cases (op.run s).1 <;> rfl

/-- Of a store, nothing but the number of the next temporary file is changed by the update, which
takes the steps one after the other. If one of them fails, the update does what is to be done about
it, and fails with the error of the step. -/
structure Takes (fs : FileSystem (StateM σ)) (store : Store) (op : Update (StateM σ) Unit)
    (steps : List FileStep) : Prop where
  ok : ∀ {s s'}, (runAll fs steps).run s = (.ok (), s') →
    ∃ n, outcome op store s = ((.ok (), { store with nextTemp := n }), s')
  error : ∀ {s mid step cause}, (runAll fs steps).run s = (.error (step, cause), mid) →
    ∃ n, outcome op store s =
      ((.error (step.failure cause), { store with nextTemp := n }), ((step.undo fs).run mid).2)

namespace Takes

variable {fs : FileSystem (StateM σ)} {store : Store} {steps : List FileStep}

/-- One step in front of others, with nothing to be done about it if it fails. -/
theorem attempt_bind (step : FileStep) {next : Update (StateM σ) Unit}
    (hundo : step.undo fs = pure ()) (hnext : Takes fs store next steps) :
    Takes fs store (Store.attempt step.remark (step.run fs) >>= fun _ ↦ next) (step :: steps) := by
  have hattempt (s : σ) := outcome_attempt step.remark (step.run fs) store s
  constructor
  · intro s s' h
    obtain ⟨mid, hstep, hrest⟩ := FileStep.exists_of_run_runAll_cons h
    rw [outcome_bind, hattempt, hstep]
    exact hnext.ok hrest
  · intro s mid failed cause h
    rcases FileStep.run_runAll_cons_error_cases h with ⟨rfl, hstep⟩ | ⟨next, hstep, hrest⟩
    · refine ⟨store.nextTemp, ?_⟩
      rw [outcome_bind, hattempt, hstep, hundo]
      rfl
    · rw [outcome_bind, hattempt, hstep]
      exact hnext.error hrest

theorem moveOver (fs : FileSystem (StateM σ)) (store : Store) (temp path : String) :
    Takes fs store (Store.moveOver fs temp path) [.rename temp path] := by
  constructor
  · intro s s' h
    obtain ⟨mid, hstep, hrest⟩ := FileStep.exists_of_run_runAll_cons h
    obtain ⟨-, rfl⟩ := Prod.mk.inj hrest
    change (fs.rename temp path).run s = _ at hstep
    refine ⟨store.nextTemp, ?_⟩
    rw [Store.moveOver, outcome_lift_bind, hstep]
    rfl
  · intro s mid failed cause h
    rcases FileStep.run_runAll_cons_error_cases h with ⟨rfl, hstep⟩ | ⟨next, -, hrest⟩
    · change (fs.rename temp path).run s = _ at hstep
      refine ⟨store.nextTemp, ?_⟩
      rw [Store.moveOver, outcome_lift_bind, hstep]
      rfl
    · exact absurd (congrArg Prod.fst hrest) nofun

theorem replaceDocument (fs : FileSystem (StateM σ)) (store : Store) (path temp text : String) :
    Takes fs store (Store.replaceDocument fs path temp text) (replaceSteps path temp text) :=
  attempt_bind (.createNew temp) rfl <| attempt_bind (.write temp text) rfl <|
    attempt_bind (.sync temp) rfl <| moveOver fs store temp path

theorem makeParent_bind (path : String) {next : Update (StateM σ) Unit}
    (hnext : Takes fs store next steps) :
    Takes fs store (Store.makeParent fs path >>= fun _ ↦ next) (parentSteps path ++ steps) := by
  unfold Store.makeParent parentSteps
  cases Path.parent? path with
  | none => exact hnext
  | some parent =>
    dsimp only
    split
    · exact hnext
    · exact attempt_bind (.makeDirs parent) rfl hnext

/-- A number is taken in front of the steps. -/
theorem set_bind (n : Nat) {next : Update (StateM σ) Unit}
    (hnext : Takes fs { store with nextTemp := n } next steps) :
    Takes fs store (MonadStateOf.set { store with nextTemp := n } >>= fun _ ↦ next) steps where
  ok h := by
    rw [outcome_put_bind]
    exact hnext.ok h
  error h := by
    rw [outcome_put_bind]
    exact hnext.error h

theorem congr {op op' : Update (StateM σ) Unit} (h : Takes fs store op steps)
    (hsame : ∀ s, outcome op' store s = outcome op store s) : Takes fs store op' steps where
  ok hrun := by
    rw [hsame]
    exact h.ok hrun
  error hrun := by
    rw [hsame]
    exact h.error hrun

/-- Writing the document takes the steps that bring the text of the records into it. -/
theorem persist (fs : FileSystem (StateM σ)) {path : String} (hpath : store.path = some path)
    (records : Entries Json) :
    Takes fs store (Store.persist fs records)
      (updateSteps path (tempPath path store.process store.nextTemp) (documentText records)) := by
  have hreplace := set_bind (store.nextTemp + 1) <| replaceDocument fs
    { store with nextTemp := store.nextTemp + 1 } path
    (tempPath path store.process store.nextTemp) (documentText records)
  -- The store is read in front of the steps, so the updates are the same for this store alone.
  refine (makeParent_bind path hreplace).congr fun s ↦ ?_
  rw [Store.persist, outcome_get_bind, hpath]

end Takes

/-- What comes of taking over new records: there is no document, or the document was written, or a
step of that failed. -/
theorem outcome_commit_cases (fs : FileSystem (StateM σ)) (records : Entries Json) (store : Store)
    (s : σ) :
    (store.path = none ∧
        outcome (commit fs records) store s = ((.ok (), { store with records }), s)) ∨
      ∃ path, store.path = some path ∧
        ((∃ n s', (runAll fs (updateSteps path (tempPath path store.process store.nextTemp)
              (documentText records))).run s = (.ok (), s') ∧
            outcome (commit fs records) store s =
              ((.ok (), { store with nextTemp := n, records }), s')) ∨
          ∃ n step cause mid, (runAll fs (updateSteps path
              (tempPath path store.process store.nextTemp) (documentText records))).run s =
                (.error (step, cause), mid) ∧
            outcome (commit fs records) store s =
              ((.error (step.failure cause), { store with nextTemp := n }),
                ((step.undo fs).run mid).2)) := by
  rcases Option.eq_none_or_eq_some store.path with hpath | ⟨path, hpath⟩
  · have hquiet : outcome (persist fs records) store s = ((.ok (), store), s) := by
      rw [persist, outcome_get_bind, hpath]
      rfl
    refine .inl ⟨hpath, ?_⟩
    rw [commit, outcome_bind, hquiet]
    rfl
  · refine .inr ⟨path, hpath, ?_⟩
    have htakes := Takes.persist fs hpath records
    cases hrun : (runAll fs (updateSteps path (tempPath path store.process store.nextTemp)
        (documentText records))).run s with
    | mk answer mid =>
      rcases answer with ⟨step, cause⟩ | _
      · obtain ⟨n, hpersist⟩ := htakes.error hrun
        refine .inr ⟨n, step, cause, mid, rfl, ?_⟩
        rw [commit, outcome_bind, hpersist]
      · obtain ⟨n, hpersist⟩ := htakes.ok hrun
        refine .inl ⟨n, mid, rfl, ?_⟩
        rw [commit, outcome_bind, hpersist]
        rfl

/-- A step of writing the document of a store failed, and the error is that of the step. -/
def Unwritten (fs : FileSystem (StateM σ)) (store : Store) (s : σ) (e : SettingsError) : Prop :=
  ∃ path ∈ store.path, ∃ text step cause mid,
    (runAll fs (updateSteps path (tempPath path store.process store.nextTemp) text)).run s =
      (.error (step, cause), mid) ∧ e = step.failure cause

/-- Taking over new records fails only if a step of writing the document does. -/
theorem unwritten_of_commit {fs : FileSystem (StateM σ)} {records : Entries Json} {store : Store}
    {s : σ} {e : SettingsError} (h : (outcome (commit fs records) store s).1.1 = .error e) :
    Unwritten fs store s e := by
  rcases outcome_commit_cases fs records store s with
    ⟨-, hcommit⟩ | ⟨path, hpath, ⟨n, s', -, hcommit⟩ | ⟨n, step, cause, mid, hrun, hcommit⟩⟩
  · rw [hcommit] at h
    contradiction
  · rw [hcommit] at h
    contradiction
  · rw [hcommit] at h
    exact ⟨path, hpath, _, step, cause, mid, hrun, (Except.error.inj h).symm⟩

end Store

end Responsive

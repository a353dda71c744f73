import Mathlib.Data.List.Induction
import Responsive.ErrorChain

/-!
# Layers of an error

A remark belongs to the layer that was outermost when it was given, and the last one given to a
layer is the one that the text shows. A step that makes an error the cause of another one puts a
layer around it and leaves all that is inside as it was.

Which steps add a layer can be seen from the steps alone: errors become causes only of errors
further out, so a step adds one just if it leads further out than the error and all steps before it.
Cut at these steps, the list of steps says of each layer which remarks were given to it.

* `ErrorChain.Effect`: what one step does.
* `ErrorChain.Reads`: the texts of the layers, read off the steps.
* `ErrorChain.run_adds_layers`: both, for every error and every list of steps.
-/

set_option autoImplicit false
set_option relaxedAutoImplicit false

namespace Responsive.ErrorChain

/-! ### Parts of an error -/

/-- The error without the remark on its outermost layer. -/
def bare : ErrorChain → ErrorChain
  | settings e => settings { e with context := none }
  | breakpoints e => breakpoints { e with context := none }
  | frontend e => frontend { e with context := none }
  | logger e => logger { e with context := none }
  | declared e => declared { e with context := none }

/-- The remark on the outermost layer. -/
def context? : ErrorChain → Option String
  | settings e => e.context
  | breakpoints e => e.context
  | frontend e => e.context
  | logger e => e.context
  | declared e => e.context

/-- Whether the outermost layer has room for a remark. -/
def hasContext : ErrorChain → Bool
  | declared e => e.cause.hasContext
  | _ => true

/-- What kind of error the outermost layer is. -/
def title : ErrorChain → String
  | settings e => e.cause.title
  | breakpoints e => e.cause.title
  | frontend e => e.cause.title
  | logger e => e.cause.title
  | declared e => e.cause.title

/-- The text inside the outermost layer. -/
def detail : ErrorChain → String
  | settings e => e.cause.detail
  | breakpoints e => e.cause.detail
  | frontend e => e.cause.detail
  | logger e => e.cause.detail
  | declared e => e.cause.detail

/-- The error that is the cause of this one, where it is one of the library's that can have a cause
of its own. -/
def below? : ErrorChain → Option ErrorChain
  | breakpoints { cause := .settings e, .. } => some (settings e)
  | frontend { cause := .settings e, .. } => some (settings e)
  | frontend { cause := .breakpoints e, .. } => some (breakpoints e)
  | _ => none

/-- How far out an error is. What becomes no cause is as far out as the errors of the frontend. -/
def level : ErrorChain → Nat
  | settings _ => 0
  | breakpoints _ => 1
  | frontend _ | logger _ | declared _ => 2

/-- The text of a layer: what kind of error it is, the remark in parentheses, the text inside. -/
def layer (title : String) (remark : Option String) (inner : String) : String :=
  match remark with
  | some remark => title ++ " (" ++ remark ++ "): " ++ inner
  | none => title ++ ": " ++ inner

section Bare

variable {e e' : ErrorChain}

@[simp] theorem hasContext_bare (e : ErrorChain) : e.bare.hasContext = e.hasContext := by
  cases e <;> rfl

@[simp] theorem title_bare (e : ErrorChain) : e.bare.title = e.title := by
  cases e <;> rfl

@[simp] theorem detail_bare (e : ErrorChain) : e.bare.detail = e.detail := by
  cases e <;> rfl

@[simp] theorem sources_bare (e : ErrorChain) : e.bare.sources = e.sources := by
  cases e <;> rfl

@[simp] theorem level_bare (e : ErrorChain) : e.bare.level = e.level := by
  cases e <;> rfl

theorem layerText_eq (title : String) (context : Option String) (inner : String) :
    Layered.layerText title context inner = layer title context inner := by
  cases context with
  | none => simp [Layered.layerText, Layered.contextText, layer]
  | some remark => simp [Layered.layerText, Layered.contextText, layer, String.append_assoc]

/-- The text of an error is that of its outermost layer around the text inside. -/
theorem message_eq (e : ErrorChain) : e.message = layer e.title e.context? e.detail := by
  rw [← layerText_eq]
  cases e <;> rfl

/-- The text inside is that of the error below. -/
theorem texts_of_below?_eq_some (h : e.below? = some e') :
    e.detail = e'.message ∧ e.sources = e'.message :: e'.sources := by
  unfold below? at h
  split at h
  case h_4 => contradiction
  all_goals
    obtain rfl := Option.some.inj h
    exact ⟨rfl, rfl⟩

end Bare

/-! ### One step -/

/-- The level of an error. -/
def Wrapper.level : Wrapper → Nat
  | breakpoints => 1
  | frontend => 2

theorem Wrapper.level_le_two (wrapper : Wrapper) : wrapper.level ≤ 2 := by
  cases wrapper <;> decide

/-- What kind of layer is put around an error of some level. -/
def Wrapper.title (inner : Nat) : Wrapper → String
  | breakpoints => "Breakpoint settings failure"
  | frontend => if inner = 0 then "Settings store failure" else "Breakpoint failure"

namespace Step

/-- The level that a step leads to. -/
def level : Step → Nat
  | remark _ => 0
  | wrap wrapper _ => wrapper.level

/-- The remark that is given to a layer which is there already. -/
def remark? : Step → Option String
  | remark context => some context
  | wrap .. => none

end Step

/-- What a step does to an error: another remark stands on the outermost layer, or a layer is put
around the error, or nothing happens. -/
inductive Effect (e : ErrorChain) : Step → ErrorChain → Prop
  | remarked {context : String} {e' : ErrorChain} (hroom : e.hasContext = true)
      (hbare : e'.bare = e.bare) (hcontext : e'.context? = some context)
      (hsources : e'.sources = e.sources) : Effect e (.remark context) e'
  | noRoom {context : String} (hroom : e.hasContext = false) : Effect e (.remark context) e
  | wrapped {wrapper : Wrapper} {context : Option String} {e' : ErrorChain}
      (hout : e.level < wrapper.level) (hbelow : e'.below? = some e)
      (htitle : e'.title = wrapper.title e.level) (hcontext : e'.context? = context)
      (hsources : e'.sources = e.message :: e.sources) : Effect e (.wrap wrapper context) e'
  | tooFarOut {wrapper : Wrapper} {context : Option String} (hout : wrapper.level ≤ e.level) :
      Effect e (.wrap wrapper context) e

section Step

variable {e : ErrorChain} {s : Step} {wrapper : Wrapper} {context : Option String}

theorem step_remark_of_room (h : e.hasContext = true) (context : String) :
    (e.step (.remark context)).bare = e.bare ∧
      (e.step (.remark context)).context? = some context := by
  cases e with
  | declared e =>
    have hstep : (declared e).step (.remark context) = declared (e.withContext context) := if_pos h
    rw [hstep]
    exact ⟨rfl, rfl⟩
  | _ => exact ⟨rfl, rfl⟩

theorem step_remark_of_no_room (h : e.hasContext = false) (context : String) :
    e.step (.remark context) = e := by
  cases e with
  | declared e => exact if_neg (Bool.eq_false_iff.mp h)
  | _ => contradiction

/-- An error that is as far out as the step would lead is no cause. -/
theorem step_wrap_of_level_le (h : wrapper.level ≤ e.level) (context : Option String) :
    e.step (.wrap wrapper context) = e := by
  cases e with
  | settings e => cases wrapper <;> exact absurd h (Nat.not_succ_le_zero _)
  | breakpoints e =>
    cases wrapper with
    | breakpoints => rfl
    | frontend => exact absurd h (Nat.not_succ_le_self 1)
  | frontend e | logger e | declared e => cases wrapper <;> rfl

/-- An error that is not becomes the cause of one of that level. -/
theorem step_wrap_of_level_lt (h : e.level < wrapper.level) (context : Option String) :
    (e.step (.wrap wrapper context)).below? = some e ∧
      (e.step (.wrap wrapper context)).title = wrapper.title e.level ∧
      (e.step (.wrap wrapper context)).context? = context ∧
      (e.step (.wrap wrapper context)).level = wrapper.level ∧
      (e.step (.wrap wrapper context)).hasContext = true := by
  cases e with
  | settings e => cases wrapper <;> exact ⟨rfl, rfl, rfl, rfl, rfl⟩
  | breakpoints e =>
    cases wrapper with
    | breakpoints => exact absurd h (Nat.lt_irrefl 1)
    | frontend => exact ⟨rfl, rfl, rfl, rfl, rfl⟩
  | frontend e | logger e | declared e =>
    exact absurd h (Nat.not_lt_of_le wrapper.level_le_two)

theorem effect_step (e : ErrorChain) (s : Step) : Effect e s (e.step s) := by
  cases s with
  | remark context =>
    cases hroom : e.hasContext with
    | true =>
      obtain ⟨hbare, hcontext⟩ := step_remark_of_room hroom context
      have hsources : (e.step (.remark context)).sources = e.sources := by
        rw [← sources_bare, hbare, sources_bare]
      exact .remarked hroom hbare hcontext hsources
    | false =>
      rw [step_remark_of_no_room hroom]
      exact .noRoom hroom
  | wrap wrapper context =>
    by_cases hout : e.level < wrapper.level
    · obtain ⟨hbelow, htitle, hcontext, -, -⟩ := step_wrap_of_level_lt hout context
      exact .wrapped hout hbelow htitle hcontext (texts_of_below?_eq_some hbelow).2
    · rw [step_wrap_of_level_le (Nat.le_of_not_lt hout)]
      exact .tooFarOut (Nat.le_of_not_lt hout)

/-- A step that leads no further out changes the remark at most. -/
theorem step_of_level_le (h : s.level ≤ e.level) :
    (e.step s).bare = e.bare ∧
      (e.step s).context? = if e.hasContext then s.remark?.or e.context? else e.context? := by
  cases s with
  | remark context =>
    cases hroom : e.hasContext with
    | true => exact step_remark_of_room hroom context
    | false =>
      rw [step_remark_of_no_room hroom]
      exact ⟨rfl, rfl⟩
  | wrap wrapper context =>
    rw [step_wrap_of_level_le h]
    exact ⟨rfl, (ite_self _).symm⟩

theorem level_step (e : ErrorChain) (s : Step) : (e.step s).level = max e.level s.level := by
  by_cases h : s.level ≤ e.level
  · rw [Nat.max_eq_left h, ← level_bare, (step_of_level_le h).1, level_bare]
  · rw [Nat.max_eq_right (Nat.le_of_not_le h)]
    cases s with
    | remark context => exact absurd (Nat.zero_le _) h
    | wrap wrapper context =>
      exact (step_wrap_of_level_lt (Nat.lt_of_not_le h) context).2.2.2.1

end Step

/-! ### Lists of steps -/

/-- The level that steps lead to. -/
def levelAfter (e : ErrorChain) (steps : List Step) : Nat :=
  (steps.map Step.level).foldl max e.level

/-- The last remark that steps give, and without any of them the one that is there. -/
def lastRemark (context : Option String) (steps : List Step) : Option String :=
  (steps.filterMap Step.remark?).getLast?.or context

/-- The remark on the outermost layer of an error after steps that add no layer. -/
def remarkAfter (e : ErrorChain) (steps : List Step) : Option String :=
  if e.hasContext then lastRemark e.context? steps else e.context?

/-- The texts of an error and of those below it, read off the steps that it went through. Each layer
shows what kind of error it is, the last remark that was given to it while it was the outermost one,
and the text inside. -/
inductive Reads (e : ErrorChain) : List Step → List String → Prop
  /-- No step adds a layer. -/
  | same {steps : List Step} (hsame : ∀ s ∈ steps, s.level ≤ e.level) :
      Reads e steps (layer e.title (e.remarkAfter steps) e.detail :: e.sources)
  /-- The steps behind one that adds a layer add none. -/
  | wrapped {before after : List Step} {wrapper : Wrapper} {context : Option String}
      {text : String} {below : List String} (hout : e.levelAfter before < wrapper.level)
      (hsame : ∀ s ∈ after, s.level ≤ wrapper.level) (hinner : Reads e before (text :: below)) :
      Reads e (before ++ .wrap wrapper context :: after)
        (layer (wrapper.title (e.levelAfter before)) (lastRemark context after) text ::
          text :: below)

section Run

variable {e : ErrorChain} {steps : List Step} {texts : List String}

theorem run_cons (e : ErrorChain) (s : Step) (steps : List Step) :
    e.run (s :: steps) = (e.step s).run steps :=
  rfl

theorem run_append (e : ErrorChain) (before after : List Step) :
    e.run (before ++ after) = (e.run before).run after :=
  List.foldl_append

theorem level_run (e : ErrorChain) (steps : List Step) :
    (e.run steps).level = e.levelAfter steps := by
  induction steps generalizing e with
  | nil => rfl
  | cons s steps ih =>
    refine (ih (e.step s)).trans ?_
    rw [levelAfter, levelAfter, level_step, List.map_cons, List.foldl_cons]

theorem lastRemark_cons (context : Option String) (s : Step) (steps : List Step) :
    lastRemark context (s :: steps) = lastRemark (s.remark?.or context) steps := by
  unfold lastRemark
  cases hs : s.remark? with
  | none => rw [List.filterMap_cons_none hs, Option.none_or]
  | some remark =>
    rw [List.filterMap_cons_some hs, List.getLast?_cons]
    cases (steps.filterMap Step.remark?).getLast? <;> rfl

/-- Steps that add no layer change the remark at most. -/
theorem run_of_level_le (h : ∀ s ∈ steps, s.level ≤ e.level) :
    (e.run steps).bare = e.bare ∧ (e.run steps).context? = e.remarkAfter steps := by
  induction steps generalizing e with
  | nil => exact ⟨rfl, (ite_self _).symm⟩
  | cons s steps ih =>
    obtain ⟨hbare, hcontext⟩ := step_of_level_le (h s List.mem_cons_self)
    have hlevel : (e.step s).level = e.level := by rw [← level_bare, hbare, level_bare]
    have hroom : (e.step s).hasContext = e.hasContext := by
      rw [← hasContext_bare, hbare, hasContext_bare]
    obtain ⟨hbare', hcontext'⟩ := ih (e := e.step s) fun t ht ↦
      hlevel ▸ h t (List.mem_cons_of_mem s ht)
    refine ⟨hbare'.trans hbare, hcontext'.trans ?_⟩
    rw [remarkAfter, remarkAfter, hroom, hcontext, lastRemark_cons]
    split <;> rfl

/-- What the text of an error after such steps is made of. -/
theorem texts_run_of_level_le (h : ∀ s ∈ steps, s.level ≤ e.level) :
    (e.run steps).message = layer e.title (e.remarkAfter steps) e.detail ∧
      (e.run steps).sources = e.sources := by
  obtain ⟨hbare, hcontext⟩ := run_of_level_le h
  rw [message_eq, hcontext, ← title_bare, ← detail_bare, ← sources_bare, hbare, title_bare,
    detail_bare, sources_bare]
  exact ⟨rfl, rfl⟩

/-- What is read off the steps are the texts of the error. -/
theorem Reads.eq (h : Reads e steps texts) :
    texts = (e.run steps).message :: (e.run steps).sources := by
  induction h with
  | same hsame =>
    obtain ⟨hmessage, hsources⟩ := texts_run_of_level_le hsame
    rw [hmessage, hsources]
  | @wrapped before after wrapper context text below hout hsame _ ih =>
    obtain ⟨rfl, rfl⟩ := List.cons.inj ih
    have hlevel : (e.run before).level < wrapper.level := by rwa [level_run]
    obtain ⟨hbelow, htitle, hcontext, hwrapped, hroom⟩ := step_wrap_of_level_lt hlevel context
    obtain ⟨hdetail, hsources⟩ := texts_of_below?_eq_some hbelow
    obtain ⟨hmessage', hsources'⟩ :=
      texts_run_of_level_le (e := (e.run before).step (.wrap wrapper context)) fun s hs ↦
        hwrapped ▸ hsame s hs
    rw [run_append, run_cons, hmessage', hsources', hsources, hdetail, htitle, level_run,
      remarkAfter, hroom, hcontext, if_pos rfl]

/-- Steps that lead no further out do not move the level. -/
theorem foldl_max_of_level_le {n : Nat} (h : ∀ s ∈ steps, s.level ≤ n) :
    (steps.map Step.level).foldl max n = n := by
  induction steps with
  | nil => rfl
  | cons s steps ih =>
    rw [List.map_cons, List.foldl_cons, Nat.max_eq_left (h s List.mem_cons_self)]
    exact ih fun t ht ↦ h t (List.mem_cons_of_mem s ht)

theorem levelAfter_of_wraps {before after : List Step} {wrapper : Wrapper}
    {context : Option String} (hout : e.levelAfter before < wrapper.level)
    (hsame : ∀ s ∈ after, s.level ≤ wrapper.level) :
    e.levelAfter (before ++ .wrap wrapper context :: after) = wrapper.level := by
  rw [levelAfter, List.map_append, List.foldl_append, List.map_cons, List.foldl_cons]
  change (after.map Step.level).foldl max (max (e.levelAfter before) wrapper.level) = wrapper.level
  rw [Nat.max_eq_right (Nat.le_of_lt hout), foldl_max_of_level_le hsame]

/-- The steps say what the texts are: one more step either adds a layer or belongs to those behind
the last one that did. -/
theorem exists_reads (e : ErrorChain) (steps : List Step) : ∃ texts, Reads e steps texts := by
  induction steps using List.reverseRecOn with
  | nil => exact ⟨_, .same nofun⟩
  | append_singleton steps s ih =>
    obtain ⟨texts, h⟩ := ih
    by_cases hout : e.levelAfter steps < s.level
    · cases s with
      | remark context => exact absurd hout (Nat.not_lt_zero _)
      | wrap wrapper context =>
        rw [h.eq] at h
        exact ⟨_, .wrapped hout nofun h⟩
    · cases h with
      | same hsame =>
        rw [levelAfter, foldl_max_of_level_le hsame] at hout
        exact ⟨_, .same (List.forall_mem_append.mpr
          ⟨hsame, List.forall_mem_singleton.mpr (Nat.le_of_not_lt hout)⟩)⟩
      | wrapped hmore hsame hinner =>
        rw [levelAfter_of_wraps hmore hsame] at hout
        rw [List.append_assoc, List.cons_append]
        exact ⟨_, .wrapped hmore (List.forall_mem_append.mpr
          ⟨hsame, List.forall_mem_singleton.mpr (Nat.le_of_not_lt hout)⟩) hinner⟩

/-- The texts that are read off the steps are those of the error, and no others. -/
theorem reads_iff :
    Reads e steps texts ↔ texts = (e.run steps).message :: (e.run steps).sources := by
  constructor
  · exact Reads.eq
  · rintro rfl
    obtain ⟨texts, h⟩ := exists_reads e steps
    exact h.eq ▸ h

end Run

/-- At any point of a list of steps, a further step puts another remark on the outermost layer, or
puts one layer around the error as it is, or does nothing. After the steps, the text of the error
and the texts below it are those that the steps tell: layer by layer, with the last remark that was
given to each; and what stands inside the outermost layer is the text of the error below. -/
theorem run_adds_layers (e : ErrorChain) (steps : List Step) :
    (∀ s, Effect (e.run steps) s ((e.run steps).step s)) ∧
      (∀ texts, Reads e steps texts ↔
        texts = (e.run steps).message :: (e.run steps).sources) ∧
      ∀ inner, (e.run steps).below? = some inner →
        (e.run steps).detail = inner.message ∧
          (e.run steps).sources = inner.message :: inner.sources :=
  ⟨fun s ↦ effect_step (e.run steps) s, fun _ ↦ reads_iff, fun _ ↦ texts_of_below?_eq_some⟩

/-- A missing document, and what is said of it up to the frontend. One remark is replaced by another
one, and the last step comes too late. -/
theorem run_adds_layers_of_missing :
    let missing := settings { cause := .notFound "a.json" }
    let steps := [.remark "reading", .remark "starting", .wrap .breakpoints none,
      .remark "resolving", .wrap .frontend (some "setup"), .wrap .breakpoints (some "late")]
    let innermost := "Settings document not found (starting): a.json"
    let between := "Breakpoint settings failure (resolving): " ++ innermost
    ∃ inner, (missing.run steps).below? = some inner ∧ inner.message = between ∧
      (missing.run steps).detail = inner.message ∧
      Reads missing steps ["Breakpoint failure (setup): " ++ between, between, innermost] := by
  intro missing steps innermost between
  obtain ⟨-, htexts, hbelow⟩ := run_adds_layers missing steps
  exact ⟨_, rfl, by decide, (hbelow _ rfl).1, (htexts _).mpr (by decide)⟩

end Responsive.ErrorChain

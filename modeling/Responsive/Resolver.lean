import Responsive.Breakpoints
import Responsive.FilterChain

/-!
# Resolution of breakpoints

The widths of a request come from three layers: the built-in widths, a chain of hooks that adjusts
them, and the stored overrides. A tier is customized if an override is stored for it or if the hooks
moved it away from its built-in width, so a tier that is not customized always has that width.

A scope resolves at most once, when it is first asked, and keeps the result for all later questions.
-/

set_option autoImplicit false
set_option relaxedAutoImplicit false

namespace Responsive

/-- A chain of adjustments of the default widths. -/
abbrev DefaultHooks := FilterChain Breakpoints Unit

/-- What a source of overrides holds. -/
inductive Stored
  | pair (b : Breakpoints)
  | nothing
  /-- The source cannot be read. -/
  | unreadable
deriving DecidableEq, Repr, Inhabited

/-- The stored overrides; none where nothing is stored or the source cannot be read. -/
def Stored.overrides : Stored → Breakpoints
  | pair b => b
  | nothing | unreadable => {}

namespace Breakpoints

/-- The pair with the built-in width of a tier in the place of a missing value. -/
def fill (b : Breakpoints) (t : Tier) : Breakpoints :=
  if b.isSet t then b else b.set t t.builtinText

/-- The pair with the built-in width in the place of every missing value. -/
def completed (b : Breakpoints) : Breakpoints :=
  Tier.all.foldl fill b

end Breakpoints

namespace Resolved

/-- The pair of the defaults alone: customized are the tiers that differ from their built-in
width. -/
def ofDefaults (values : Breakpoints) : Resolved where
  values
  custom := (Tier.all.filter fun t ↦ values.get t != t.builtinText).foldl TierSet.insert ∅

/-- Puts the value of a stored tier over the one that is there. -/
def override (saved : Breakpoints) (r : Resolved) (t : Tier) : Resolved where
  values := r.values.set t (saved.get t)
  custom := r.custom.insert t

end Resolved

namespace DefaultHooks

/-- The built-in pair after all hooks. A tier that a hook emptied gets its built-in width back. -/
def defaults (hooks : DefaultHooks) : Breakpoints :=
  (hooks.apply () .builtin).completed

/-- The pair of one request, and the tiers that are customized. -/
def resolve (hooks : DefaultHooks) (stored : Stored) : Resolved :=
  let start := Resolved.ofDefaults hooks.defaults
  match stored with
  | .pair saved => (Tier.all.filter saved.isSet).foldl (Resolved.override saved) start
  | .nothing | .unreadable => start

/-- The hooks as one line of text, for diagnosis. -/
def describeResolver (hooks : DefaultHooks) : String :=
  "BreakpointResolver \x7b defaults: " ++ hooks.describe ++ ", .. \x7d"

end DefaultHooks

theorem Breakpoints.get_fill (b : Breakpoints) (t u : Tier) :
    (b.fill u).get t = if t = u ∧ b.isSet t = false then t.builtinText else b.get t := by
  rw [fill]
  split
  next h =>
    rw [if_neg]
    rintro ⟨rfl, hunset⟩
    rw [h] at hunset
    contradiction
  next h =>
    rw [get_set]
    by_cases ht : t = u
    · subst ht
      simp [h]
    · simp [ht]

theorem Breakpoints.get_completed (b : Breakpoints) (t : Tier) :
    b.completed.get t = if b.isSet t then b.get t else t.builtinText := by
  have hset : b.isSet t = !(b.get t).isEmpty := rfl
  have hfilled (c : Breakpoints) : c.isSet t = !(c.get t).isEmpty := rfl
  cases t <;>
    simp only [completed, Tier.all, List.foldl_cons, List.foldl_nil, get_fill, hfilled] <;>
    cases hempty : (b.get _).isEmpty <;> simp [hempty]

namespace Resolved

theorem contains_foldl_insert (ts : List Tier) (s : TierSet) (t : Tier) :
    (ts.foldl TierSet.insert s).contains t = (decide (t ∈ ts) || s.contains t) := by
  induction ts generalizing s with
  | nil => simp
  | cons u ts ih =>
    rw [List.foldl_cons, ih, TierSet.contains_insert]
    by_cases h : t = u <;> simp [h]

/-- The values of the given tiers are put over the ones that are there, and the others stay. -/
theorem get_foldl_override (saved : Breakpoints) (ts : List Tier) (r : Resolved) (t : Tier) :
    (ts.foldl (override saved) r).get t = if t ∈ ts then saved.get t else r.get t := by
  induction ts generalizing r with
  | nil => simp
  | cons u ts ih =>
    rw [List.foldl_cons, ih]
    by_cases h : t = u
    · subst h
      simp [override, get]
    · simp [override, get, h]

theorem contains_foldl_override (saved : Breakpoints) (ts : List Tier) (r : Resolved) (t : Tier) :
    (ts.foldl (override saved) r).custom.contains t = (decide (t ∈ ts) || r.custom.contains t) := by
  induction ts generalizing r with
  | nil => simp
  | cons u ts ih =>
    rw [List.foldl_cons, ih, override, TierSet.contains_insert]
    by_cases h : t = u <;> simp [h]

theorem contains_ofDefaults (values : Breakpoints) (t : Tier) :
    (ofDefaults values).custom.contains t = (values.get t != t.builtinText) := by
  have hempty : (∅ : TierSet).contains t = false := by cases t <;> rfl
  rw [ofDefaults, contains_foldl_insert, hempty, Bool.or_false, Bool.eq_iff_iff]
  simp [t.mem_all]

end Resolved

namespace DefaultHooks

variable (hooks : DefaultHooks) (stored : Stored) (t : Tier)

/-- A stored value counts before the default. -/
theorem get_resolve :
    (hooks.resolve stored).get t =
      if stored.overrides.isSet t then stored.overrides.get t else hooks.defaults.get t := by
  cases stored with
  | pair saved =>
    rw [resolve, Resolved.get_foldl_override]
    simp only [List.mem_filter, t.mem_all, true_and, Stored.overrides]
    rfl
  | nothing | unreadable => cases t <;> rfl

/-- Customized are the tiers with a stored value, and those whose default was moved. -/
theorem contains_custom_resolve :
    (hooks.resolve stored).custom.contains t =
      (stored.overrides.isSet t || hooks.defaults.get t != t.builtinText) := by
  cases stored with
  | pair saved =>
    rw [resolve, Resolved.contains_foldl_override, Resolved.contains_ofDefaults]
    simp [t.mem_all, Stored.overrides]
  | nothing | unreadable =>
    rw [resolve, Resolved.contains_ofDefaults]
    cases t <;> rfl

variable {hooks stored t}

/-- A tier that is not customized has its built-in width. -/
theorem get_resolve_of_not_custom (h : (hooks.resolve stored).custom.contains t = false) :
    (hooks.resolve stored).get t = t.builtinText := by
  rw [contains_custom_resolve, Bool.or_eq_false_iff, bne_eq_false_iff_eq] at h
  rw [get_resolve, h.1, if_neg Bool.false_ne_true, h.2]

/-- Every tier has a width. -/
theorem get_resolve_ne_empty (hooks : DefaultHooks) (stored : Stored) (t : Tier) :
    (hooks.resolve stored).get t ≠ "" := by
  have hset {b : Breakpoints} (h : b.isSet t = true) : b.get t ≠ "" := by
    simpa [Breakpoints.isSet] using h
  have hbuiltin : t.builtinText ≠ "" := by cases t <;> decide
  rw [get_resolve, defaults, Breakpoints.get_completed]
  split
  next h => exact hset h
  next =>
    split
    next h => exact hset h
    next => exact hbuiltin

end DefaultHooks

/-- The resolution of one request, once it has been asked for. -/
structure Scope where
  resolved : Option Resolved := none
deriving DecidableEq, Repr, Inhabited

namespace Scope

variable {m : Type → Type} [Monad m]

/-- The resolved pair. The source is read on the first call only. -/
def get (hooks : DefaultHooks) (load : m Stored) : StateT Scope m Resolved := do
  match (← getThe Scope).resolved with
  | some r => return r
  | none =>
    let r := hooks.resolve (← load)
    set ({ resolved := some r } : Scope)
    return r

theorem run_get [LawfulMonad m] {hooks : DefaultHooks} {load : m Stored} {scope : Scope} :
    (get hooks load).run scope =
      match scope.resolved with
      | some r => pure (r, scope)
      | none =>
        (fun stored ↦ (hooks.resolve stored, { resolved := some (hooks.resolve stored) })) <$>
          load := by
  have hread : (getThe Scope : StateT Scope m Scope).run scope = pure (scope, scope) := rfl
  simp only [get, StateT.run_bind, hread, pure_bind]
  cases hresolved : scope.resolved with
  | some r => simp
  | none => simp

/-- Whether any tier is customized. -/
def hasCustom (hooks : DefaultHooks) (load : m Stored) : StateT Scope m Bool :=
  return (← get hooks load).hasCustom

/-- Whether the pair has been asked for. -/
def isResolved (scope : Scope) : Bool :=
  scope.resolved.isSome

end Scope

end Responsive

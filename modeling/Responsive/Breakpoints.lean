import Responsive.TierSet

/-!
# Breakpoint pairs

A width for each tier, kept as text: the empty text means that no width is given, and every other
text is passed on as it stands, a number or not. `Resolved` is the pair that a request works with,
together with the set of tiers that were customized.
-/

set_option autoImplicit false
set_option relaxedAutoImplicit false

namespace Responsive

/-- One text per tier; empty means unset. -/
structure Breakpoints where
  tablet : String := ""
  mobile : String := ""
deriving DecidableEq, Repr, Inhabited

namespace Breakpoints

/-- The built-in widths. -/
def builtin : Breakpoints where
  tablet := Tier.builtinText .tablet
  mobile := Tier.builtinText .mobile

/-- The value of a tier. -/
def get (b : Breakpoints) : Tier → String
  | .tablet => b.tablet
  | .mobile => b.mobile

/-- The pair with the value of one tier replaced. -/
def set (b : Breakpoints) (t : Tier) (value : String) : Breakpoints :=
  match t with
  | .tablet => { b with tablet := value }
  | .mobile => { b with mobile := value }

/-- The pair whose value of each tier is given by a function. -/
def ofFn (value : Tier → String) : Breakpoints where
  tablet := value .tablet
  mobile := value .mobile

/-- Only the empty text counts as unset; white space is a value like any other. -/
def isSet (b : Breakpoints) (t : Tier) : Bool :=
  !(b.get t).isEmpty

/-- The tiers that hold a value. -/
def setTiers (b : Breakpoints) : TierSet :=
  .filter b.isSet

/-- Whether both values are literally the built-in ones: `1024.0` is not `1024`. -/
def isBuiltin (b : Breakpoints) : Bool :=
  Tier.all.all fun t ↦ b.get t == t.builtinText

/-- Each value of `b` that is set, and that of `fallback` for the other tiers. -/
def orElse (b fallback : Breakpoints) : Breakpoints :=
  .ofFn fun t ↦ if b.isSet t then b.get t else fallback.get t

@[simp] theorem get_ofFn (value : Tier → String) (t : Tier) : (ofFn value).get t = value t := by
  cases t <;> rfl

@[simp] theorem get_builtin (t : Tier) : builtin.get t = t.builtinText := by
  cases t <;> rfl

@[simp] theorem get_set (b : Breakpoints) (t u : Tier) (value : String) :
    (b.set t value).get u = if u = t then value else b.get u := by
  cases t <;> cases u <;> rfl

theorem ext_get {a b : Breakpoints} (h : ∀ t, a.get t = b.get t) : a = b := by
  obtain ⟨_, _⟩ := a
  obtain ⟨_, _⟩ := b
  obtain rfl := h .tablet
  obtain rfl := h .mobile
  rfl

theorem isSet_builtin (t : Tier) : builtin.isSet t = true := by
  cases t <;> decide

theorem get_orElse (b fallback : Breakpoints) (t : Tier) :
    (b.orElse fallback).get t = if b.isSet t then b.get t else fallback.get t := by
  simp [orElse]

theorem isBuiltin_iff {b : Breakpoints} : b.isBuiltin = true ↔ b = builtin := by
  constructor
  · intro h
    refine ext_get fun t ↦ ?_
    have := List.all_eq_true.mp h t t.mem_all
    simpa using this
  · rintro rfl
    decide

end Breakpoints

/-- The pair that one request works with, and the tiers whose width is not the stylesheet's own. -/
structure Resolved where
  values : Breakpoints
  custom : TierSet
deriving DecidableEq, Repr, Inhabited

namespace Resolved

/-- The built-in pair, with no tier customized. -/
def builtin : Resolved where
  values := .builtin
  custom := ∅

/-- The value of a tier. -/
def get (r : Resolved) (t : Tier) : String :=
  r.values.get t

/-- Whether any tier is customized. -/
def hasCustom (r : Resolved) : Bool :=
  !r.custom.isEmpty

/-- Whether both values are literally the built-in ones. -/
def isBuiltin (r : Resolved) : Bool :=
  r.values.isBuiltin

theorem hasCustom_of_mem {r : Resolved} {t : Tier} (h : t ∈ r.custom) : r.hasCustom = true := by
  change r.custom.contains t = true at h
  cases t <;> simp_all [hasCustom, TierSet.isEmpty, TierSet.contains]

end Resolved

end Responsive

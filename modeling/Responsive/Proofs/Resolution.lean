import Responsive.Frontend.Basic

/-!
# The resolution law

Three layers give a tier its width: the stored override, the chain of hooks, and the width that is
built in. The first of them that is not empty counts, for each tier on its own, whatever the hooks
do to the pair as a whole. A tier is customized if one of the first two layers moved it; a stored
width counts as a move even where it is the built-in one.

* `get_defaults`, `get_defaults_configHooks`: the lower two layers.
* `resolve_congr`: a tier depends on no stored value but its own.
* `resolve_first_given_layer`: the law.
-/

set_option autoImplicit false
set_option relaxedAutoImplicit false

namespace Responsive

theorem Breakpoints.isSet_iff {b : Breakpoints} {t : Tier} : b.isSet t = true ↔ b.get t ≠ "" := by
  simp [isSet]

namespace DefaultHooks

variable {hooks : DefaultHooks} {stored : Stored} {t : Tier}

/-- The default of a tier is what the hooks make of the built-in pair, unless that is empty. -/
theorem get_defaults (hooks : DefaultHooks) (t : Tier) :
    hooks.defaults.get t =
      if (hooks.apply () .builtin).get t ≠ "" then (hooks.apply () .builtin).get t
      else t.builtinText := by
  rw [defaults, Breakpoints.get_completed]
  simp only [Breakpoints.isSet_iff]

theorem mem_custom_resolve :
    t ∈ (hooks.resolve stored).custom ↔
      stored.overrides.get t ≠ "" ∨ hooks.defaults.get t ≠ t.builtinText := by
  change (hooks.resolve stored).custom.contains t = true ↔ _
  rw [contains_custom_resolve, Bool.or_eq_true, Breakpoints.isSet_iff, bne_iff_ne]

/-- The hooks of a configuration put in the configured widths, and leave the other tiers alone. -/
theorem get_defaults_configHooks (config : Config) (t : Tier) :
    (Frontend.configHooks config).defaults.get t =
      if config.breakpoints.defaults.get t ≠ "" then config.breakpoints.defaults.get t
      else t.builtinText := by
  have hbuiltin : t.builtinText ≠ "" := by cases t <;> decide
  have happly : ((Frontend.configHooks config).apply () .builtin).get t =
      if config.breakpoints.defaults.get t ≠ "" then config.breakpoints.defaults.get t
      else t.builtinText := by
    rw [Frontend.configHooks]
    split
    next hempty =>
      -- No tier is configured, so no hook is added.
      have hunset : config.breakpoints.defaults.isSet t = false := by
        rw [Breakpoints.setTiers, TierSet.isEmpty] at hempty
        cases t <;> simp_all [TierSet.filter]
      have hget : config.breakpoints.defaults.get t = "" := by
        simpa [Breakpoints.isSet] using hunset
      rw [FilterChain.apply_empty, Breakpoints.get_builtin, if_neg (not_not_intro hget)]
    next =>
      change (config.breakpoints.defaults.orElse .builtin).get t = _
      rw [Breakpoints.get_orElse, Breakpoints.get_builtin]
      simp only [Breakpoints.isSet_iff]
  rw [get_defaults, happly, ite_not, ite_not]
  split <;> simp_all

/-- A tier depends on no stored value but its own. -/
theorem resolve_congr {stored' : Stored} (h : stored'.overrides.get t = stored.overrides.get t) :
    (hooks.resolve stored').get t = (hooks.resolve stored).get t ∧
      (t ∈ (hooks.resolve stored').custom ↔ t ∈ (hooks.resolve stored).custom) := by
  constructor
  · rw [get_resolve, get_resolve, Breakpoints.isSet, Breakpoints.isSet, h]
  · rw [mem_custom_resolve, mem_custom_resolve, h]

/-- Every chain of hooks and every source of overrides give a tier the stored value, or else the
value that the hooks make of the built-in pair, or else the built-in width, whichever is the first
that is not empty. The tier is customized if a value is stored or the default was moved, so every
tier has a width, and one that is not customized has that of the stylesheet. Two sources that hold
the same value for the tier give it the same width and the same flag. -/
theorem resolve_first_given_layer (hooks : DefaultHooks) (stored : Stored) (config : Config)
    (t : Tier) :
    let r := hooks.resolve stored
    let own := stored.overrides.get t
    let hooked := (hooks.apply () .builtin).get t
    r.get t = (if own ≠ "" then own else if hooked ≠ "" then hooked else t.builtinText) ∧
      (t ∈ r.custom ↔
        own ≠ "" ∨ (if hooked ≠ "" then hooked else t.builtinText) ≠ t.builtinText) ∧
      r.get t ≠ "" ∧
      (t ∉ r.custom → r.get t = t.builtinText) ∧
      (∀ stored' : Stored, stored'.overrides.get t = own →
        (hooks.resolve stored').get t = r.get t ∧
          (t ∈ (hooks.resolve stored').custom ↔ t ∈ r.custom)) ∧
      (∀ saved u value, u ≠ t →
        (hooks.resolve (.pair (saved.set u value))).get t = (hooks.resolve (.pair saved)).get t ∧
          (t ∈ (hooks.resolve (.pair (saved.set u value))).custom ↔
            t ∈ (hooks.resolve (.pair saved)).custom)) ∧
      (Frontend.configHooks config).defaults.get t =
        (if config.breakpoints.defaults.get t ≠ "" then config.breakpoints.defaults.get t
          else t.builtinText) := by
  intro r own hooked
  refine ⟨?_, ?_, get_resolve_ne_empty hooks stored t, ?_, fun _ h ↦ resolve_congr h, ?_,
    get_defaults_configHooks config t⟩
  · have hget : r.get t = _ := get_resolve hooks stored t
    simp only [Breakpoints.isSet_iff, get_defaults] at hget
    exact hget
  · have hmem : t ∈ r.custom ↔ _ := mem_custom_resolve
    rw [get_defaults] at hmem
    exact hmem
  · intro h
    exact get_resolve_of_not_custom (Bool.eq_false_iff.mpr h)
  · intro saved u value hu
    exact resolve_congr ((Breakpoints.get_set saved u t value).trans (if_neg hu.symm))

end DefaultHooks

end Responsive

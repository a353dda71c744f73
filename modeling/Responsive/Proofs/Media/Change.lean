import Responsive.Proofs.Media.Placeholder

/-!
# Whether a text changes

Both filters tell a text that they leave alone from one that they change: a result is given in the
second case only. For the expansion of placeholders that is plain, as no expansion brings back what
it replaces. For the moving of boundaries it is not: every query is compared with its rewriting, and
several queries might change in such a way that the whole text is the old one again. They cannot. If
the whole is the same then so is every replacement (`target_eq_source_of_targets_eq`), whatever the
configured values are.

* `changesQuery_eq_true_iff`: some query changes if some condition moves to another spelling.
* `retarget?_isSome_iff`: a pass gives a result if the text changes.
* `isSome_iff_text_changes`: both filters, and when they change a text.
-/

set_option autoImplicit false
set_option relaxedAutoImplicit false

namespace Responsive.Media

open Text Media.Part

/-! ### Moving boundaries -/

section Boundaries

variable {boundaries : List Boundary}

/-- If every part of a sheet has its old text, so has every query. -/
theorem Sheet.substitute_eq_self_of_parts {sheet : Sheet}
    (h : ∀ p ∈ sheet.parts boundaries, p.target = p.source) :
    ∀ query ∈ sheet.queries, substitute boundaries query = query := by
  induction sheet with
  | plain s => simp [queries]
  | media lead query rest ih =>
    simp only [Sheet.parts, List.mem_append] at h
    intro query' hmem
    rcases List.mem_cons.mp hmem with rfl | hmem
    · exact substitute_eq_self_of_queryParts fun p hp ↦ h p (.inr (.inl hp))
    · exact ih (fun p hp ↦ h p (.inr (.inr hp))) query' hmem

theorem retargeted_eq_self_iff {css : List Char} :
    retargeted boundaries css = css ↔
      ∀ p ∈ partsFrom boundaries false css, p.target = p.source := by
  have hproper : ∀ p ∈ partsFrom boundaries false css, p.Proper boundaries :=
    fun p hp ↦ proper_of_mem_partsFrom hp
  rw [← targets_eq_sources_iff hproper, ← retargeted_eq_targets, sources_partsFrom]

/-- A change of a query is a change of the text. -/
theorem changesQuery_eq_true_iff {css : List Char} :
    changesQuery boundaries css = true ↔ retargeted boundaries css ≠ css := by
  constructor
  · intro h hsame
    have hqueries := Sheet.substitute_eq_self_of_parts (retargeted_eq_self_iff.mp hsame)
    have hunchanged : changesQuery boundaries css = false := by
      simpa [changesQuery] using hqueries
    rw [h] at hunchanged
    contradiction
  · intro h
    by_contra hunchanged
    exact h (retargeted_of_not_changesQuery (Bool.eq_false_iff.mpr hunchanged))

theorem changesQuery_eq_false_iff {css : List Char} :
    changesQuery boundaries css = false ↔
      ∀ p ∈ partsFrom boundaries false css, p.target = p.source := by
  rw [← Bool.not_eq_true, changesQuery_eq_true_iff, not_not, retargeted_eq_self_iff]

theorem retarget?_eq_none_iff {css : List Char} :
    retarget? boundaries css = none ↔ changesQuery boundaries css = false := by
  rw [retarget?_eq]
  cases changesQuery boundaries css <;> simp

/-- A pass gives a result just if the text changes. -/
theorem retarget?_isSome_iff {css : List Char} :
    (retarget? boundaries css).isSome = true ↔ retarget boundaries css ≠ css := by
  rw [Option.isSome_iff_ne_none, Ne, retarget?_eq_none_iff, Bool.not_eq_false,
    changesQuery_eq_true_iff, retarget_eq_retargeted]

/-- A text changes if a condition in a query moves to a text other than its own. -/
theorem retarget_ne_iff {css : List Char} :
    retarget boundaries css ≠ css ↔ ∃ before condition boundary,
      Candidate css before condition ∧ EndsInQuery before ∧
        condition.boundary? boundaries = some boundary ∧
        boundary.replacement ≠ condition.text := by
  rw [retarget_eq_retargeted, Ne, retargeted_eq_self_iff]
  constructor
  · intro h
    simp only [not_forall] at h
    obtain ⟨p, hmem, hne⟩ := h
    cases p with
    | copied c => exact absurd rfl hne
    | moved condition boundary =>
      obtain ⟨lead, rest, hparts⟩ := List.append_of_mem hmem
      obtain ⟨hcandidate, hquery, hboundary⟩ := exists_moved_iff.mp ⟨lead, rest, hparts, rfl⟩
      exact ⟨sources lead, condition, boundary, hcandidate, hquery, hboundary, hne⟩
  · rintro ⟨before, condition, boundary, hcandidate, hquery, hboundary, hne⟩ hsame
    obtain ⟨lead, rest, hparts, -⟩ := exists_moved_iff.mpr ⟨hcandidate, hquery, hboundary⟩
    exact hne (hsame (moved condition boundary) (by simp [hparts]))

end Boundaries

/-! ### Expanding placeholders -/

theorem expandTier?_eq_none_iff {t : Tier} {css : List Char} :
    expandTier? t css = none ↔ ¬ t.placeholder.toList <:+: css := by
  rw [expandTier?, ← occurs_eq_true_iff]
  split <;> simp_all

/-- No expansion is given just if there is no placeholder. -/
theorem expand?_eq_none_iff {css : List Char} :
    expand? css = none ↔ ∀ t : Tier, ¬ t.placeholder.toList <:+: css := by
  have hfold : expand? css =
      (expandTier? .mobile ((expandTier? .tablet css).getD css)).or (expandTier? .tablet css) := by
    simp [expand?, Tier.all]
  have hboth : expand? css = none ↔
      expandTier? .tablet css = none ∧ expandTier? .mobile css = none := by
    rw [hfold]
    cases htablet : expandTier? .tablet css with
    | none => simp
    | some s => simp
  rw [hboth, expandTier?_eq_none_iff, expandTier?_eq_none_iff]
  refine ⟨fun h t ↦ ?_, fun h ↦ ⟨h .tablet, h .mobile⟩⟩
  cases t with
  | tablet => exact h.1
  | mobile => exact h.2

/-! ### Both filters -/

/-- Each of the two filters gives a result just if the text changes. An adjusted text changes if a
condition in one of its queries is on an active boundary whose replacement is not spelled like the
condition; the pass that finds this out takes no slice that is out of range. An expanded text
changes if it held a placeholder. -/
theorem isSome_iff_text_changes (css : List Char) (r : Resolved) :
    ((adjust? css r).isSome = true ↔ adjust css r ≠ css) ∧
    (adjust css r ≠ css ↔ r.isBuiltin = false ∧ ∃ before condition boundary,
      Candidate css before condition ∧ EndsInQuery before ∧
        Active css r boundary ∧ boundary.old = condition.digits ∧
        boundary.replacement ≠ condition.text) ∧
    Pass.run (movingBoundaries css r) css = .ok (adjust? css r) ∧
    ((expand? css).isSome = true ↔ expand css ≠ css) ∧
    (expand css ≠ css ↔ ∃ t : Tier, t.placeholder.toList <:+: css) := by
  have hexpand : expand css ≠ css ↔ ∃ t : Tier, t.placeholder.toList <:+: css := by
    rw [Ne, expand_eq_self_iff]
    simp
  refine ⟨?_, ?_, run_movingBoundaries_eq css r, ?_, hexpand⟩
  · rw [adjust_eq_retarget, adjust?_eq_retarget?]
    exact retarget?_isSome_iff
  · rw [adjust_eq_retarget, retarget_ne_iff]
    simp only [boundary?_movingBoundaries_eq_some_iff]
    constructor
    · rintro ⟨before, condition, boundary, hcandidate, hquery, ⟨hvalues, hactive, hold⟩, hne⟩
      exact ⟨hvalues, before, condition, boundary, hcandidate, hquery, hactive, hold, hne⟩
    · rintro ⟨hvalues, before, condition, boundary, hcandidate, hquery, hactive, hold, hne⟩
      exact ⟨before, condition, boundary, hcandidate, hquery, ⟨hvalues, hactive, hold⟩, hne⟩
  · rw [hexpand, Option.isSome_iff_ne_none, Ne, expand?_eq_none_iff]
    simp

end Responsive.Media

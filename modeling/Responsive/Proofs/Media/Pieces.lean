import Responsive.Proofs.Media.Change

/-!
# A stylesheet in pieces

An opening brace ends any query, so what stands before it and what stands behind it are rewritten
each on its own: a query that the first text leaves open is ended by the brace as it is ended by the
end of the text. The pass over the whole carries its cursor and its flag from one piece to the next,
and nothing of this shows in the result.

Adjusting a text is another matter, as the boundaries that move depend on what the whole text
mentions. It may be done piece by piece if every piece has the active boundaries of the whole.

* `partsFrom_append_brace_cons`: the parts of two texts with a brace between them.
* `retarget_append_brace_cons`, `retarget_intercalate_brace`: the rewriting of two texts, and of any
  number of them.
* `rewriting_of_pieces`: what the pass gives for joined texts, and adjusting piece by piece.
-/

set_option autoImplicit false
set_option relaxedAutoImplicit false

namespace Responsive.Media

open Text Media.Part

section Brace

variable {boundaries : List Boundary}

/-- Behind an opening brace a text is read from outside of a query. -/
theorem partsFrom_brace_cons (inside : Bool) (s : List Char) :
    partsFrom boundaries inside ('\x7b' :: s) =
      copied '\x7b' :: partsFrom boundaries false s := by
  cases inside with
  | false => exact partsFrom_false_cons (by decide) s
  | true =>
    have hbrace : ¬ Sheet.inQuery '\x7b' = true := by decide
    rw [partsFrom_true, List.takeWhile_cons_of_neg hbrace, List.dropWhile_cons_of_neg hbrace,
      queryParts_nil, List.nil_append, partsFrom_false_cons (by decide)]

theorem partsFrom_append_brace_cons (a b : List Char) :
    partsFrom boundaries false (a ++ '\x7b' :: b) =
      partsFrom boundaries false a ++ copied '\x7b' :: partsFrom boundaries false b := by
  rw [partsFrom_append (fenced_cons.mpr (by decide)), partsFrom_brace_cons]

theorem retarget_append_brace_cons (a b : List Char) :
    retarget boundaries (a ++ '\x7b' :: b) =
      retarget boundaries a ++ '\x7b' :: retarget boundaries b := by
  rw [retarget_eq_targets, retarget_eq_targets, retarget_eq_targets, partsFrom_append_brace_cons,
    targets_append, targets_cons]
  rfl

/-- A text stays as it is if both of two pieces of it do. -/
theorem changesQuery_append_brace_cons_iff (a b : List Char) :
    changesQuery boundaries (a ++ '\x7b' :: b) = false ↔
      changesQuery boundaries a = false ∧ changesQuery boundaries b = false := by
  rw [changesQuery_eq_false_iff, changesQuery_eq_false_iff, changesQuery_eq_false_iff,
    partsFrom_append_brace_cons]
  simp [or_imp, forall_and, target, source]

/-- Any number of texts with a brace between each and the next. -/
theorem retarget_intercalate_brace (pieces : List (List Char)) :
    retarget boundaries (['\x7b'].intercalate pieces) =
      ['\x7b'].intercalate (pieces.map (retarget boundaries)) := by
  induction pieces with
  | nil =>
    rw [List.map_nil, List.intercalate_nil, retarget_eq_targets,
      partsFrom_false_of_cutAt?_eq_none rfl]
    rfl
  | cons piece pieces ih =>
    cases pieces with
    | nil => rw [List.map_singleton, List.intercalate_singleton, List.intercalate_singleton]
    | cons next pieces =>
      rw [List.intercalate_cons_cons, List.append_assoc, List.singleton_append,
        retarget_append_brace_cons, ih]
      simp only [List.map_cons, List.intercalate_cons_cons, List.append_assoc,
        List.singleton_append]

end Brace

/-- The pass over two texts with an opening brace between them gives what the passes over each of
them give, and it gives a result just if one of them does; no slice is out of range. So a whole text
may be adjusted piece by piece, the pieces being those between its braces or any others that it is
joined from, if every piece has the active boundaries of the whole. -/
theorem rewriting_of_pieces :
    (∀ (boundaries : List Boundary) (a b : List Char), ∃ whole first second,
      Pass.run boundaries (a ++ '\x7b' :: b) = .ok whole ∧ Pass.run boundaries a = .ok first ∧
        Pass.run boundaries b = .ok second ∧
        whole.getD (a ++ '\x7b' :: b) = first.getD a ++ '\x7b' :: second.getD b ∧
        (whole = none ↔ first = none ∧ second = none)) ∧
    ∀ (r : Resolved) (css : List Char) (pieces : List (List Char)),
      ['\x7b'].intercalate pieces = css →
      (∀ piece ∈ pieces, ∀ boundary,
        boundary ∈ activeBoundaries piece r ↔ boundary ∈ activeBoundaries css r) →
      adjust css r = ['\x7b'].intercalate (pieces.map (adjust · r)) := by
  constructor
  · intro boundaries a b
    have hrun (s : List Char) : Pass.run boundaries s = .ok (retarget? boundaries s) := by
      rw [Pass.run_eq, retarget?_eq]
    refine ⟨_, _, _, hrun _, hrun a, hrun b, retarget_append_brace_cons a b, ?_⟩
    rw [retarget?_eq_none_iff, retarget?_eq_none_iff, retarget?_eq_none_iff,
      changesQuery_append_brace_cons_iff]
  · rintro r css pieces rfl hactive
    have hpiece : ∀ piece ∈ pieces,
        adjust piece r = retarget (movingBoundaries (['\x7b'].intercalate pieces) r) piece := by
      intro piece hmem
      have hmoving (boundary : Boundary) : boundary ∈ movingBoundaries piece r ↔
          boundary ∈ movingBoundaries (['\x7b'].intercalate pieces) r := by
        rw [mem_movingBoundaries_iff, mem_movingBoundaries_iff, ← mem_activeBoundaries_iff,
          hactive piece hmem, mem_activeBoundaries_iff]
      rw [adjust_eq_retarget]
      exact retarget_congr_of_mem_iff eq_of_old_eq_of_mem_movingBoundaries hmoving piece
    rw [List.map_congr_left hpiece, ← retarget_intercalate_brace, adjust_eq_retarget]

/-- A rule and an open query, both of them at the tablet width. -/
def ruleAndQuery : List Char :=
  "@media (width:1024px)\x7bb:c\x7d@media (max-width: 1024px)".toList

/-- Both pieces of that text have its one active boundary. -/
theorem rewriting_of_rule_and_query :
    activeBoundaries ruleAndQuery ⟨⟨"1200", "768"⟩, .single .tablet⟩ ≠ [] ∧
    (∀ piece ∈ ruleAndQuery.splitOn '\x7b', ∀ boundary,
      boundary ∈ activeBoundaries piece ⟨⟨"1200", "768"⟩, .single .tablet⟩ ↔
        boundary ∈ activeBoundaries ruleAndQuery ⟨⟨"1200", "768"⟩, .single .tablet⟩) ∧
    adjust ruleAndQuery ⟨⟨"1200", "768"⟩, .single .tablet⟩ =
      ['\x7b'].intercalate
        ((ruleAndQuery.splitOn '\x7b').map (adjust · ⟨⟨"1200", "768"⟩, .single .tablet⟩)) := by
  have hsame : ∀ piece ∈ ruleAndQuery.splitOn '\x7b',
      activeBoundaries piece ⟨⟨"1200", "768"⟩, .single .tablet⟩ =
        activeBoundaries ruleAndQuery ⟨⟨"1200", "768"⟩, .single .tablet⟩ := by
    decide
  have hactive : ∀ piece ∈ ruleAndQuery.splitOn '\x7b', ∀ boundary,
      boundary ∈ activeBoundaries piece ⟨⟨"1200", "768"⟩, .single .tablet⟩ ↔
        boundary ∈ activeBoundaries ruleAndQuery ⟨⟨"1200", "768"⟩, .single .tablet⟩ :=
    fun piece hmem boundary ↦ by rw [hsame piece hmem]
  exact ⟨by decide, hactive, rewriting_of_pieces.2 _ _ _ (List.intercalate_splitOn _) hactive⟩

end Responsive.Media

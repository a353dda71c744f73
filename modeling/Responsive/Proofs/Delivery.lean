import Responsive.Delivery.Basic
import Responsive.Proofs.Media.Placeholder

/-!
# The stylesheet on the page

With a customized tier the page gets the filtered stylesheet, and without one the stylesheet as it
is. In the second case the filter would move no boundary, but it would expand placeholders. So the
page agrees with the filter unless a stylesheet with placeholders meets a pair without a customized
tier. Behind the filter a placeholder can stand only in a configured value, which is written into a
query as it stands.

* `Media.Part.isInfix_of_isInfix_targets`: a word of a rewritten text is one of the old text, or one
  of a value that was put into it.
* `Media.isInfix_adjust_expand_iff`: the placeholders behind the filter.
* `Delivery.onPage_standard`: the page and the filter, for every stylesheet and every pair.
-/

set_option autoImplicit false
set_option relaxedAutoImplicit false

namespace Responsive

namespace Media

open Text

namespace Part

/-- A word that begins with a letter foreign to conditions, and that does not go on with the first
letter of a condition or of its unit, is found in a rewritten text where it was before, or in the
new side of a boundary that was moved to. -/
theorem isInfix_of_isInfix_targets {c : Char} {word : List Char} {parts : List Part}
    (hwidth : c ∉ widthWord) (hunit : c ∉ unitWord) (hw : 'w' ∉ word) (hp : 'p' ∉ word)
    (h : c :: word <:+: targets parts) :
    c :: word <:+: sources parts ∨
      ∃ condition boundary, moved condition boundary ∈ parts ∧ c :: word <:+: boundary.new := by
  -- The characters copied right before the parts that are left may begin the word.
  suffices hlead : ∀ lead : List Char, c :: word <:+: lead ++ targets parts →
      c :: word <:+: lead ++ sources parts ∨
        ∃ condition boundary, moved condition boundary ∈ parts ∧ c :: word <:+: boundary.new from
    hlead [] h
  clear h
  induction parts with
  | nil => exact fun lead h ↦ .inl h
  | cons p parts ih =>
    intro lead h
    cases p with
    | copied d =>
      have hstep := ih (lead ++ [d])
      rw [List.append_assoc, List.append_assoc] at hstep
      refine (hstep h).imp_right ?_
      rintro ⟨condition, boundary, hmem, hnew⟩
      exact ⟨condition, boundary, List.mem_cons_of_mem _ hmem, hnew⟩
    | moved condition boundary =>
      have hcondition (s : List Char) : Separates (c :: word) (widthWord ++ s) :=
        separates_cons.mpr hw
      have hend (s : List Char) : Separates (c :: word) (unitWord ++ s) := separates_cons.mpr hp
      rw [targets_cons, target, Boundary.replacement, List.append_assoc, List.append_assoc,
        isInfix_append_iff (List.cons_ne_nil _ _) (hcondition _),
        isInfix_append_iff_of_not_mem hwidth,
        isInfix_append_iff (List.cons_ne_nil _ _) (hend _),
        isInfix_append_iff_of_not_mem hunit] at h
      rcases h with hlead | hnew | hrest
      · exact .inl (hlead.trans (List.prefix_append _ _).isInfix)
      · exact .inr ⟨condition, boundary, List.mem_cons_self, hnew⟩
      · refine (ih [] hrest).imp (fun hsources ↦ ?_) ?_
        · have hsuffix : sources parts <:+ lead ++ sources (moved condition boundary :: parts) := by
            rw [sources_cons, ← List.append_assoc]
            exact List.suffix_append _ _
          exact hsources.trans hsuffix.isInfix
        · rintro ⟨condition', boundary', hmem, hnew⟩
          exact ⟨condition', boundary', List.mem_cons_of_mem _ hmem, hnew⟩

/-- The new side of every boundary that was moved to stands in the new text. -/
theorem isInfix_targets_of_mem {condition : Condition} {boundary : Boundary} {parts : List Part}
    (h : moved condition boundary ∈ parts) : boundary.new <:+: targets parts := by
  obtain ⟨lead, rest, rfl⟩ := List.append_of_mem h
  refine ⟨targets lead ++ widthWord, unitWord ++ targets rest, ?_⟩
  simp [target, Boundary.replacement, List.append_assoc]

end Part

open Media.Part

/-! ### Placeholders behind the filter -/

/-- The value of a tier is put into a text: its boundary is active, and the number of the boundary
stands in a query. -/
def PutInto (css : List Char) (r : Resolved) (t : Tier) : Prop :=
  r.isBuiltin = false ∧ Active css r (upperBoundary t (r.get t).toList) ∧
    ∃ before gap, Candidate css before ⟨gap, decimalNat t.builtinWidth⟩ ∧ EndsInQuery before

/-- A placeholder stands in the filtered text exactly where a value brings it along. -/
theorem isInfix_adjust_expand_iff {css : List Char} {r : Resolved} {t : Tier} :
    t.placeholder.toList <:+: adjust (expand css) r ↔
      ∃ u, PutInto (expand css) r u ∧ t.placeholder.toList <:+: (r.get u).toList := by
  obtain ⟨word, hword, hw, hp⟩ : ∃ word, t.placeholder.toList = '@' :: word ∧ 'w' ∉ word ∧
      'p' ∉ word := by
    cases t <;> exact ⟨_, rfl, by decide, by decide⟩
  have hnot := Draft.not_isInfix_expand css t
  rw [adjust_eq_targets]
  rw [hword] at hnot ⊢
  constructor
  · intro h
    rcases isInfix_of_isInfix_targets (by decide) (by decide) hw hp h with
      hsources | ⟨condition, boundary, hmem, hnew⟩
    · rw [sources_partsFrom] at hsources
      exact absurd hsources hnot
    obtain ⟨lead, rest, hparts⟩ := List.append_of_mem hmem
    obtain ⟨hcandidate, hquery, hboundary⟩ := exists_moved_iff.mp ⟨lead, rest, hparts, rfl⟩
    obtain ⟨hvalues, hactive, hold⟩ := boundary?_movingBoundaries_eq_some_iff.mp hboundary
    obtain ⟨gap, digits⟩ := condition
    cases hactive with
    | upper u custom set mentioned =>
      obtain rfl : decimalNat u.builtinWidth = digits := hold
      exact ⟨u, ⟨hvalues, .upper u custom set mentioned, _, gap, hcandidate, hquery⟩, hnew⟩
    -- The lower boundary puts in a number, which holds no `@`.
    | lower u _ _ _ n =>
      have hat : '@' ∉ decimal (n - 1) := not_mem_decimal_sub_one (by decide) (by decide) n
      exact absurd (hnew.subset List.mem_cons_self) hat
  · rintro ⟨u, ⟨hvalues, hactive, before, gap, hcandidate, hquery⟩, hnew⟩
    obtain ⟨lead, rest, hparts, -⟩ := exists_moved_iff.mpr
      ⟨hcandidate, hquery, boundary?_movingBoundaries_eq_some_iff.mpr ⟨hvalues, hactive, rfl⟩⟩
    have hmoved : moved ⟨gap, decimalNat u.builtinWidth⟩ (upperBoundary u (r.get u).toList) ∈
        partsFrom (movingBoundaries (expand css) r) false (expand css) := by
      rw [hparts]
      exact List.mem_append_right _ List.mem_cons_self
    exact hnew.trans (isInfix_targets_of_mem hmoved)

/-- Without a customized tier no boundary moves. -/
theorem adjust_of_not_hasCustom {r : Resolved} (h : r.hasCustom = false) (css : List Char) :
    adjust css r = css := by
  simp [adjust, adjust?, h]

end Media

namespace Delivery

open Media

/-- What a page with the pair `r` gets of a stylesheet that the filter turns into `filtered`. -/
structure OnPage (stylesheet : String) (r : Resolved) (page filtered : String) : Prop where
  /-- It is the filtered stylesheet, unless placeholders meet a pair without a customized tier. -/
  agrees : page = filtered ↔
    r.hasCustom = true ∨ ∀ t : Tier, ¬ t.placeholder.toList <:+: stylesheet.toList
  /-- Without a customized tier it is the stylesheet itself. -/
  stock : r.hasCustom = false → page = stylesheet
  /-- With one it holds a placeholder only where a configured value brings it along. -/
  placeholder : r.hasCustom = true → ∀ t : Tier, t.placeholder.toList <:+: page.toList ↔
    ∃ u, PutInto (expand stylesheet.toList) r u ∧ t.placeholder.toList <:+: (r.get u).toList

theorem onPage_standard {d : Delivery} (hfilter : d.filter = .standard) (r : Resolved) :
    OnPage d.responsiveCss r (d.pageCss (d.pageStyle r)) (d.filterCss r d.responsiveCss) := by
  have hfiltered : d.filterCss r d.responsiveCss =
      .ofList (adjust (expand d.responsiveCss.toList) r) := by
    rw [filterCss, hfilter, CssFilter.apply_standard]
  cases hcustom : r.hasCustom with
  | true =>
    have hpage : d.pageCss (d.pageStyle r) = d.filterCss r d.responsiveCss := by
      rw [pageStyle, hcustom]
      rfl
    refine ⟨iff_of_true hpage (.inl hcustom), fun h ↦ absurd (hcustom.symm.trans h) nofun,
      fun _ t ↦ ?_⟩
    rw [hpage, hfiltered, String.toList_ofList]
    exact isInfix_adjust_expand_iff
  | false =>
    have hpage : d.pageCss (d.pageStyle r) = d.responsiveCss := by
      rw [pageStyle, hcustom]
      rfl
    have hnot : ¬ r.hasCustom = true := Bool.eq_false_iff.mp hcustom
    refine ⟨?_, fun _ ↦ hpage, fun h ↦ absurd h hnot⟩
    rw [hpage, hfiltered, adjust_of_not_hasCustom hcustom, or_iff_right hnot,
      ← expand_eq_self_iff, eq_comm, ← String.toList_inj, String.toList_ofList]

end Delivery

end Responsive

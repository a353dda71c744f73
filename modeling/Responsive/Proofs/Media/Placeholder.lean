import Responsive.Media.CssFilter
import Responsive.Proofs.Media.Adjust
import Responsive.Resolver

/-!
# Where placeholders land

A draft is a text cut at its placeholders. The standard filter turns every placeholder into the
query of its tier at the resolved width, and rewrites the pieces between them as parts of the whole.
Three facts make this work. Expansion is simultaneous, as no expansion holds a placeholder. The
query that a placeholder expands to has the very spelling that makes its boundary active, and it
opens its own query, so that its condition is read. And the resolver gives a tier that is not
customized no width but the built-in one.

* `expand_eq_fill`: the expansion of a text, and `not_isInfix_expand`: it holds no placeholder.
* `targets_partsFrom_fill`: the rewriting of an expanded draft, piece by piece.
* `apply_standard_lands_placeholders`: the filtered text.
-/

set_option autoImplicit false
set_option relaxedAutoImplicit false

namespace Responsive.Media

open Text Media.Part

/-- A text cut at its placeholders. -/
inductive Draft
  /-- Text without a placeholder. -/
  | plain (text : List Char)
  /-- Text before the first placeholder, the tier of that, and all that follows it. -/
  | placeholder (lead : List Char) (t : Tier) (rest : Draft)
deriving DecidableEq, Repr

/-- The tier whose placeholder a text begins with, and the text behind it. -/
def placeholder? (s : List Char) : Option (Tier × List Char) :=
  Tier.all.findSome? fun t ↦ (stripLead? t.placeholder.toList s).map fun rest ↦ (t, rest)

theorem placeholder?_eq_some {s rest : List Char} {t : Tier} (h : placeholder? s = some (t, rest)) :
    s = t.placeholder.toList ++ rest := by
  obtain ⟨t', -, hstrip⟩ := List.exists_of_findSome?_eq_some h
  obtain ⟨rest', hrest, heq⟩ := Option.map_eq_some_iff.mp hstrip
  obtain ⟨rfl, rfl⟩ := Prod.mk.inj heq
  exact stripLead?_eq_some_iff.mp hrest

theorem length_lt_of_placeholder?_eq_some {s rest : List Char} {t : Tier}
    (h : placeholder? s = some (t, rest)) : rest.length < s.length := by
  have hlength := congrArg List.length (placeholder?_eq_some h)
  have hpos : 0 < t.placeholder.toList.length := by cases t <;> decide
  rw [List.length_append] at hlength
  omega

theorem not_isPrefix_of_placeholder?_eq_none {s : List Char} (h : placeholder? s = none)
    (t : Tier) : ¬ t.placeholder.toList <+: s := by
  rintro ⟨rest, hrest⟩
  have hstrip := List.findSome?_eq_none_iff.mp h t t.mem_all
  rw [stripLead?_eq_some_iff.mpr hrest.symm] at hstrip
  contradiction

namespace Draft

/-- The draft with one more character in front. -/
def cons (c : Char) : Draft → Draft
  | plain s => plain (c :: s)
  | placeholder lead t rest => placeholder (c :: lead) t rest

/-- Cuts a text at its placeholders, from left to right. -/
def read : List Char → Draft
  | [] => plain []
  | c :: s =>
    match _h : placeholder? (c :: s) with
    | some (t, rest) => placeholder [] t (read rest)
    | none => (read s).cons c
termination_by s => s.length
decreasing_by
  · exact length_lt_of_placeholder?_eq_some _h
  · simp

/-- The pieces between the placeholders. -/
def pieces : Draft → List (List Char)
  | plain s => [s]
  | placeholder lead _ rest => lead :: rest.pieces

/-- The tiers of the placeholders. -/
def tiers : Draft → List Tier
  | plain _ => []
  | placeholder _ t rest => t :: rest.tiers

/-- The text with every placeholder filled by the query of its tier and every piece rewritten. A
piece behind a placeholder begins inside of a query. -/
def fill (query : Tier → List Char) (rewrite : Bool → List Char → List Char) (inside : Bool) :
    Draft → List Char
  | plain s => rewrite inside s
  | placeholder lead t rest => rewrite inside lead ++ query t ++ rest.fill query rewrite true

/-- Only the queries of tiers that have a placeholder matter. -/
theorem fill_congr {query query' : Tier → List Char} {rewrite : Bool → List Char → List Char}
    {inside : Bool} {draft : Draft} (h : ∀ t ∈ draft.tiers, query t = query' t) :
    draft.fill query rewrite inside = draft.fill query' rewrite inside := by
  induction draft generalizing inside with
  | plain s => rfl
  | placeholder lead t rest ih =>
    rw [fill, fill, h t (by simp [tiers]), ih fun t hmem ↦ h t (by simp [tiers, hmem])]

/-- Leaves a piece as it is. -/
def keep (_inside : Bool) (s : List Char) : List Char :=
  s

/-- The text that was cut. -/
def text (draft : Draft) : List Char :=
  draft.fill (fun t ↦ t.placeholder.toList) keep false

theorem fill_keep (query : Tier → List Char) (inside inside' : Bool) (draft : Draft) :
    draft.fill query keep inside = draft.fill query keep inside' := by
  cases draft <;> rfl

theorem text_placeholder (lead : List Char) (t : Tier) (rest : Draft) :
    (placeholder lead t rest).text = lead ++ t.placeholder.toList ++ rest.text := by
  rw [text, fill, keep, fill_keep _ true false, text]

theorem text_cons (c : Char) (draft : Draft) : (draft.cons c).text = c :: draft.text := by
  cases draft <;> rfl

@[simp] theorem text_read (s : List Char) : (read s).text = s := by
  fun_induction read s with
  | case1 => rfl
  | case2 c s t rest hplaceholder ih =>
    rw [text_placeholder, ih, List.nil_append, placeholder?_eq_some hplaceholder]
  | case3 c s hplaceholder ih => rw [text_cons, ih]

/-- No piece of a text that was cut holds a placeholder. -/
theorem not_isInfix_of_mem_pieces {s piece : List Char} (h : piece ∈ (read s).pieces) (t : Tier) :
    ¬ t.placeholder.toList <:+: piece := by
  have hnil : ¬ t.placeholder.toList <:+: [] := by cases t <;> decide
  fun_induction read s generalizing piece with
  | case1 =>
    obtain rfl := List.mem_singleton.mp h
    exact hnil
  | case2 c s t' rest hplaceholder ih =>
    rcases List.mem_cons.mp h with rfl | hmem
    · exact hnil
    · exact ih hmem
  | case3 c s hplaceholder ih =>
    -- Of the first piece only the new beginning is in question, and that is one of the whole text.
    have hfirst {lead : List Char} (hlead : lead <+: s) (hrest : ¬ t.placeholder.toList <:+: lead) :
        ¬ t.placeholder.toList <:+: c :: lead := by
      rw [List.infix_cons_iff, not_or]
      refine ⟨fun hbegins ↦ ?_, hrest⟩
      exact not_isPrefix_of_placeholder?_eq_none hplaceholder t
        (hbegins.trans ((List.prefix_cons_inj c).mpr hlead))
    have htext := text_read s
    cases hread : read s with
    | plain lead =>
      rw [hread] at h htext
      obtain rfl := List.mem_singleton.mp h
      exact hfirst ⟨[], by simpa [text, fill, keep] using htext⟩ (ih (by simp [hread, pieces]))
    | placeholder lead t' rest =>
      rw [hread] at h htext
      rw [text_placeholder, List.append_assoc] at htext
      rcases List.mem_cons.mp h with rfl | hmem
      · exact hfirst ⟨_, htext⟩ (ih (by simp [hread, pieces]))
      · exact ih (by simp [hread, pieces, hmem])

/-! ### Expansion -/

/-- Replacing one word in a filled draft, if every query is kept or replaced whole. -/
theorem replaceAll_fill {word new : List Char} {query query' : Tier → List Char} {draft : Draft}
    (hword : word ≠ []) (hquery : ∀ t s, Separates word (query t ++ s) ∧
      replaceAll word new (query t ++ s) = query' t ++ replaceAll word new s)
    (hpieces : ∀ piece ∈ draft.pieces, ¬ word <:+: piece) (inside : Bool) :
    replaceAll word new (draft.fill query keep inside) = draft.fill query' keep inside := by
  induction draft generalizing inside with
  | plain s => exact replaceAll_of_not_isInfix hword (hpieces s (by simp [pieces]))
  | placeholder lead t rest ih =>
    rw [fill, keep, List.append_assoc, replaceAll_append_of_not_isInfix new hword
      (hquery t _).1 (hpieces lead (by simp [pieces])), (hquery t _).2,
      ih fun piece hmem ↦ hpieces piece (by simp [pieces, hmem]), fill, keep, List.append_assoc]

/-- A query that begins like a placeholder and goes on in another way is kept. -/
theorem replaceAll_query_append {c : Char} {word query : List Char} (new : List Char)
    (hquery : c ∉ query) {s : List Char} (h : stripLead? (c :: word) (c :: query ++ s) = none) :
    replaceAll (c :: word) new (c :: query ++ s) =
      c :: query ++ replaceAll (c :: word) new s := by
  rw [List.cons_append] at h
  rw [List.cons_append, replaceAll_cons_of_stripLead? (by simp) h,
    replaceAll_append_of_not_mem hquery]
  rfl

/-- Expanding the placeholders of one tier replaces them, whether or not the text holds any. -/
theorem getD_expandTier? (t : Tier) (s : List Char) :
    (expandTier? t s).getD s = replaceAll t.placeholder.toList t.query.toList s := by
  rw [expandTier?]
  split
  · rfl
  next h =>
    rw [occurs_eq_true_iff] at h
    exact (replaceAll_of_not_isInfix (by cases t <;> decide) h).symm

theorem separates_placeholder (t t' : Tier) (s : List Char) :
    Separates t.placeholder.toList (t'.placeholder.toList ++ s) ∧
      Separates t.placeholder.toList (t'.query.toList ++ s) := by
  cases t <;> cases t' <;> simp [Tier.placeholder, Tier.query]

/-- What stands in the place of a placeholder when the tiers in `done` are expanded: the query of
its tier, or still the placeholder. -/
def filled (done : List Tier) (t : Tier) : List Char :=
  if t ∈ done then t.query.toList else t.placeholder.toList

/-- A placeholder of another tier is kept. -/
theorem replaceAll_placeholder_append {t t' : Tier} (h : t' ≠ t) (new s : List Char) :
    replaceAll t.placeholder.toList new (t'.placeholder.toList ++ s) =
      t'.placeholder.toList ++ replaceAll t.placeholder.toList new s := by
  cases t with
  | tablet =>
    cases t' with
    | tablet => exact absurd rfl h
    | mobile => exact replaceAll_query_append new (by decide) rfl
  | mobile =>
    cases t' with
    | tablet => exact replaceAll_query_append new (by decide) rfl
    | mobile => exact absurd rfl h

/-- The query of either tier is kept. -/
theorem replaceAll_placeholder_query_append (t t' : Tier) (new s : List Char) :
    replaceAll t.placeholder.toList new (t'.query.toList ++ s) =
      t'.query.toList ++ replaceAll t.placeholder.toList new s := by
  cases t <;> cases t' <;> exact replaceAll_query_append new (by decide) rfl

/-- Replacing the placeholders of one more tier in a text in which some tiers are expanded. -/
theorem replaceAll_filled {draft : Draft} {t : Tier}
    (h : ∀ piece ∈ draft.pieces, ¬ t.placeholder.toList <:+: piece) (done : List Tier) :
    replaceAll t.placeholder.toList t.query.toList (draft.fill (filled done) keep false) =
      draft.fill (filled (t :: done)) keep false := by
  have hword : t.placeholder.toList ≠ [] := by cases t <;> decide
  refine replaceAll_fill hword (fun t' s ↦ ?_) h false
  by_cases hdone : t' ∈ done
  · rw [filled, if_pos hdone, filled, if_pos (List.mem_cons_of_mem t hdone)]
    exact ⟨(separates_placeholder t t' s).2, replaceAll_placeholder_query_append t t' _ s⟩
  rw [filled, if_neg hdone]
  refine ⟨(separates_placeholder t t' s).1, ?_⟩
  by_cases htier : t' = t
  · rw [filled, if_pos (htier ▸ List.mem_cons_self), htier]
    exact replaceAll_word_append hword s
  · rw [filled, if_neg (List.not_mem_cons_of_ne_of_not_mem htier hdone)]
    exact replaceAll_placeholder_append htier _ s

theorem fill_filled {done : List Tier} (h : ∀ t : Tier, t ∈ done) (draft : Draft) :
    draft.fill (filled done) keep false = draft.fill (fun t ↦ t.query.toList) keep false :=
  fill_congr fun t _ ↦ if_pos (h t)

/-- The text with the placeholders of the tiers in `order` expanded, one tier after the other. The
order of `expand` is that of `Tier.all`. -/
def expandInOrder (order : List Tier) (css : List Char) : List Char :=
  (order.foldl (fun expanded t ↦ (expandTier? t (expanded.getD css)).or expanded) none).getD css

/-- One more tier is expanded in the text that the others have left. -/
theorem expandInOrder_append_singleton (order : List Tier) (t : Tier) (css : List Char) :
    expandInOrder (order ++ [t]) css =
      (expandTier? t (expandInOrder order css)).getD (expandInOrder order css) := by
  unfold expandInOrder
  rw [List.foldl_append, List.foldl_cons, List.foldl_nil]
  cases expandTier? t _ <;> rfl

/-- The text behind each pass: the tiers that had their turn are expanded. -/
theorem expandInOrder_eq_fill (order : List Tier) (css : List Char) :
    expandInOrder order css = (read css).fill (filled order) keep false := by
  induction order using List.reverseRecOn with
  | nil =>
    have htext : (read css).fill (filled []) keep false = (read css).text :=
      fill_congr fun t _ ↦ if_neg List.not_mem_nil
    rw [htext, text_read]
    rfl
  | append_singleton order t ih =>
    rw [expandInOrder_append_singleton, getD_expandTier?, ih,
      replaceAll_filled fun piece hmem ↦ not_isInfix_of_mem_pieces hmem t]
    have hmem (u : Tier) : u ∈ t :: order ↔ u ∈ order ++ [t] := by
      rw [List.mem_cons, List.mem_append, List.mem_singleton, or_comm]
    exact fill_congr fun u _ ↦ by simp only [filled, hmem]

/-- No placeholder begins inside a query. -/
theorem isInfix_query_append_iff (t t' : Tier) (s : List Char) :
    t.placeholder.toList <:+: t'.query.toList ++ s ↔ t.placeholder.toList <:+: s := by
  have hnot : ¬ t.placeholder.toList <+: t'.query.toList ++ s := by
    have hstrip : stripLead? t.placeholder.toList (t'.query.toList ++ s) = none := by
      cases t <;> cases t' <;> rfl
    rintro ⟨rest, hrest⟩
    rw [stripLead?_eq_some_iff.mpr hrest.symm] at hstrip
    contradiction
  obtain ⟨word, hword⟩ : ∃ word, t.placeholder.toList = '@' :: word := by
    cases t <;> exact ⟨_, rfl⟩
  obtain ⟨query, hquery, hmem⟩ : ∃ query, t'.query.toList = '@' :: query ∧ '@' ∉ query := by
    cases t' <;> exact ⟨_, rfl, by decide⟩
  rw [hquery, List.cons_append] at hnot
  rw [hquery, List.cons_append, List.infix_cons_iff, or_iff_right hnot, hword,
    isInfix_append_iff_of_not_mem hmem]

theorem not_isInfix_fill_query {draft : Draft} {t : Tier}
    (h : ∀ piece ∈ draft.pieces, ¬ t.placeholder.toList <:+: piece) (inside : Bool) :
    ¬ t.placeholder.toList <:+: draft.fill (fun t ↦ t.query.toList) keep inside := by
  induction draft generalizing inside with
  | plain s => exact h s (by simp [pieces])
  | placeholder lead t' rest ih =>
    rw [fill, keep, List.append_assoc, isInfix_append_iff (by cases t <;> decide)
      (separates_placeholder t t' _).2, isInfix_query_append_iff, not_or]
    exact ⟨h lead (by simp [pieces]), ih (fun piece hmem ↦ h piece (by simp [pieces, hmem])) true⟩

/-- Expansion fills every placeholder of a text with the query of its tier. -/
theorem expand_eq_fill (css : List Char) :
    expand css = (read css).fill (fun t ↦ t.query.toList) keep false :=
  calc expand css
      = expandInOrder Tier.all css := rfl
    _ = (read css).fill (filled Tier.all) keep false := expandInOrder_eq_fill Tier.all css
    _ = (read css).fill (fun t ↦ t.query.toList) keep false := fill_filled Tier.mem_all _

/-- An expanded text holds no placeholder. -/
theorem not_isInfix_expand (css : List Char) (t : Tier) :
    ¬ t.placeholder.toList <:+: expand css := by
  rw [expand_eq_fill]
  exact not_isInfix_fill_query (fun piece hmem ↦ not_isInfix_of_mem_pieces hmem t) false

theorem expand_eq_self {css : List Char} (h : ∀ t : Tier, ¬ t.placeholder.toList <:+: css) :
    expand css = css := by
  have hnone (t : Tier) : expandTier? t css = none :=
    expandTier?_of_not_occurs (Bool.eq_false_iff.mpr (mt occurs_eq_true_iff.mp (h t)))
  simp [expand, expand?, Tier.all, hnone]

/-! ### Landing -/

/-- The condition in the query of a tier. -/
def queryCondition (t : Tier) : Condition where
  gap := [' ']
  digits := decimalNat t.builtinWidth

theorem wellFormed_queryCondition (t : Tier) : (queryCondition t).WellFormed :=
  Condition.wellFormed_decimalNat (List.all_eq_true.mp rfl) _

/-- The query of a tier up to its condition, without `@media`. -/
def queryLead : List Char :=
  " only screen and (max-".toList

theorem toList_query (t : Tier) :
    t.query.toList = mediaWord ++ queryLead ++ (queryCondition t).text ++ [')'] := by
  cases t <;> decide

/-- The rewriting of an expanded draft: the condition in the query of every placeholder is read
there, and the pieces are rewritten on their own. -/
theorem targets_partsFrom_fill (boundaries : List Boundary) (draft : Draft) (inside : Bool) :
    targets (partsFrom boundaries inside (draft.fill (fun t ↦ t.query.toList) keep inside)) =
      draft.fill
        (fun t ↦ mediaWord ++ queryLead ++ targets ((queryCondition t).parts boundaries) ++ [')'])
        (fun inside piece ↦ targets (partsFrom boundaries inside piece)) inside := by
  induction draft generalizing inside with
  | plain s => rfl
  | placeholder lead t rest ih =>
    have hfenced : Fenced (t.query.toList ++ rest.fill (fun t ↦ t.query.toList) keep true) := by
      rw [toList_query]
      exact fenced_cons.mpr (by decide)
    rw [fill, keep, List.append_assoc, partsFrom_append hfenced, toList_query]
    simp only [List.append_assoc, partsFrom_mediaWord_append, targets_append, targets_map_copied]
    rw [partsFrom_append_of_not_mem (by decide) (by decide) (by decide),
      partsFrom_text_append (wellFormed_queryCondition t),
      partsFrom_append_of_not_mem (by decide) (by decide) (by decide)]
    simp only [targets_append, targets_map_copied, ih, fill, List.append_assoc]

/-- The query of a placeholder has the spelling that a boundary is looked for in. -/
theorem mentioned_of_mem_tiers {draft : Draft} {t : Tier} (h : t ∈ draft.tiers) (inside : Bool) :
    Mentioned (draft.fill (fun t ↦ t.query.toList) keep inside) (decimalNat t.builtinWidth) := by
  have hquery : t.query.toList <:+: draft.fill (fun t ↦ t.query.toList) keep inside := by
    induction draft generalizing inside with
    | plain s => contradiction
    | placeholder lead t' rest ih =>
      rcases List.mem_cons.mp h with rfl | hmem
      · exact ⟨_, _, rfl⟩
      · exact (ih hmem true).trans (List.suffix_append _ _).isInfix
  refine ⟨[' '], .inr rfl, List.IsInfix.trans ?_ hquery⟩
  cases t <;> decide

/-- A boundary that is active at the built-in width of a tier leads to the value of that tier. -/
theorem new_eq_of_active {css : List Char} {r : Resolved} {boundary : Boundary} {t : Tier}
    (h : Active css r boundary) (hold : boundary.old = decimalNat t.builtinWidth) :
    boundary.new = (r.get t).toList := by
  cases h with
  | upper t' => rw [eq_of_decimalNat_builtinWidth_eq hold]
  | lower t' => exact absurd hold.symm (decimalNat_builtinWidth_ne t t')

/-- The condition in the query of a placeholder lands on the resolved width, for any pair that
leaves a tier that is not customized at its built-in width. -/
theorem targets_parts_queryCondition {css : List Char} {r : Resolved} {t : Tier}
    (hmentioned : Mentioned css (decimalNat t.builtinWidth)) (hset : r.get t ≠ "")
    (hbuiltin : t ∉ r.custom → r.get t = t.builtinText) :
    targets ((queryCondition t).parts (movingBoundaries css r)) =
      widthWord ++
        (if (queryCondition t).boundary? (movingBoundaries css r) = none then [' '] else []) ++
          (r.get t).toList ++ unitWord := by
  rw [Condition.parts]
  cases hboundary : (queryCondition t).boundary? (movingBoundaries css r) with
  | some boundary =>
    obtain ⟨-, hactive, hold⟩ := boundary?_movingBoundaries_eq_some_iff.mp hboundary
    simp [target, Boundary.replacement, new_eq_of_active hactive hold]
  | none =>
    have hvalue : r.get t = t.builtinText := by
      by_cases hvalues : r.isBuiltin = true
      · rw [Resolved.get, Breakpoints.isBuiltin_iff.mp hvalues, Breakpoints.get_builtin]
      · by_cases hcustom : t ∈ r.custom
        · rw [boundary?_movingBoundaries_eq_some_iff.mpr
            ⟨Bool.eq_false_iff.mpr hvalues, .upper t hcustom hset hmentioned, rfl⟩] at hboundary
          contradiction
        · exact hbuiltin hcustom
    have hdigits : decimalNat t.builtinWidth = t.builtinText.toList := by cases t <;> decide
    simp [Condition.text, queryCondition, target, hvalue, hdigits]

end Draft

/-- Expansion leaves a text alone exactly if there is nothing to expand. -/
theorem expand_eq_self_iff {css : List Char} :
    expand css = css ↔ ∀ t : Tier, ¬ t.placeholder.toList <:+: css := by
  refine ⟨fun h t ↦ ?_, Draft.expand_eq_self⟩
  rw [← h]
  exact Draft.not_isInfix_expand css t

/-- The standard filter at a resolved pair, for any hooks and any state of the source. The text
falls into pieces without placeholders and the placeholders between them. Every placeholder becomes
the query of its tier at the resolved width, and every piece is rewritten by itself, by the
boundaries that move in the expanded text: the first one from outside of a query, the others from
inside the query that the placeholder before them opens. -/
theorem apply_standard_lands_placeholders (hooks : DefaultHooks) (stored : Stored) (css : String) :
    (Draft.read css.toList).text = css.toList ∧
    (∀ piece ∈ (Draft.read css.toList).pieces, ∀ t : Tier, ¬ t.placeholder.toList <:+: piece) ∧
    ∃ gap : Tier → List Char, (∀ t, gap t = [] ∨ gap t = [' ']) ∧
      (CssFilter.standard.apply (hooks.resolve stored) css).toList =
        (Draft.read css.toList).fill
          (fun t ↦ "@media only screen and (max-width:".toList ++ gap t ++
            ((hooks.resolve stored).get t).toList ++ "px)".toList)
          (fun inside piece ↦ targets (partsFrom
            (movingBoundaries (expand css.toList) (hooks.resolve stored)) inside piece))
          false := by
  have hexpand := Draft.expand_eq_fill css.toList
  let moving := movingBoundaries (expand css.toList) (hooks.resolve stored)
  refine ⟨Draft.text_read _, fun piece hmem t ↦ Draft.not_isInfix_of_mem_pieces hmem t,
    fun t ↦ if (Draft.queryCondition t).boundary? moving = none then [' '] else [], ?_, ?_⟩
  · intro t
    dsimp only
    split
    · exact .inr rfl
    · exact .inl rfl
  · rw [CssFilter.apply_standard, String.toList_ofList, adjust_eq_targets]
    nth_rewrite 2 [hexpand]
    rw [Draft.targets_partsFrom_fill]
    refine Draft.fill_congr fun t hmem ↦ ?_
    have hmentioned := Draft.mentioned_of_mem_tiers hmem false
    rw [← hexpand] at hmentioned
    rw [Draft.targets_parts_queryCondition hmentioned (DefaultHooks.get_resolve_ne_empty _ _ _)
      fun hcustom ↦ DefaultHooks.get_resolve_of_not_custom (Bool.eq_false_iff.mpr hcustom)]
    have hlead : "@media only screen and (max-width:".toList =
        mediaWord ++ Draft.queryLead ++ widthWord := by
      decide
    have hunit : "px)".toList = unitWord ++ [')'] := by decide
    rw [hlead, hunit]
    simp only [moving, List.append_assoc]

end Responsive.Media

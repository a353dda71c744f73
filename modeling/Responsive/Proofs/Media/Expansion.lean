import Responsive.Proofs.Media.Placeholder

/-!
# Expansion in one pass

Expansion replaces the placeholders of one tier after the other, each in the whole text that the one
before has left. It could as well go through the text once and replace the placeholders of both
tiers as it meets them: an expansion neither makes a placeholder nor breaks one, as a placeholder
begins with a letter that it does not have again, and no query goes on after that letter like a
placeholder.

* `expandAtOnce`: the one pass, and `expandAtOnce_append_placeholder_append`: it misses no
  placeholder.
* `expand_is_simultaneous`: the expansion of a text, in either way, and of an expanded one.
-/

set_option autoImplicit false
set_option relaxedAutoImplicit false

namespace Responsive.Media

open Text Draft

/-! ### One pass for both tiers -/

/-- Goes through a text from left to right, puts the query of its tier in the place of every
placeholder, and copies all else. -/
def expandAtOnce : List Char → List Char
  | [] => []
  | c :: s =>
    match _h : placeholder? (c :: s) with
    | some (t, rest) => t.query.toList ++ expandAtOnce rest
    | none => c :: expandAtOnce s
termination_by s => s.length
decreasing_by
  · exact length_lt_of_placeholder?_eq_some _h
  · simp

theorem expandAtOnce_of_placeholder?_eq_some {s rest : List Char} {t : Tier}
    (h : placeholder? s = some (t, rest)) :
    expandAtOnce s = t.query.toList ++ expandAtOnce rest := by
  cases s with
  | nil => contradiction
  | cons c s =>
    rw [expandAtOnce]
    split <;> simp_all

theorem expandAtOnce_of_placeholder?_eq_none {c : Char} {s : List Char}
    (h : placeholder? (c :: s) = none) : expandAtOnce (c :: s) = c :: expandAtOnce s := by
  rw [expandAtOnce]
  split <;> simp_all

theorem fill_cons (query : Tier → List Char) (c : Char) (draft : Draft) :
    (draft.cons c).fill query keep false = c :: draft.fill query keep false := by
  cases draft <;> rfl

/-- The pass fills every placeholder with its query. -/
theorem expandAtOnce_eq_fill (s : List Char) :
    expandAtOnce s = (read s).fill (fun t ↦ t.query.toList) keep false := by
  fun_induction read s with
  | case1 => rw [expandAtOnce, fill, keep]
  | case2 c s t rest hplaceholder ih =>
    rw [expandAtOnce_of_placeholder?_eq_some hplaceholder, ih, fill, keep, List.nil_append,
      fill_keep _ true false]
  | case3 c s hplaceholder ih =>
    rw [expandAtOnce_of_placeholder?_eq_none hplaceholder, ih, fill_cons]

/-- A text begins with the placeholder that stands at its beginning. -/
theorem placeholder?_append (t : Tier) (s : List Char) :
    placeholder? (t.placeholder.toList ++ s) = some (t, s) := by
  cases t <;> rfl

/-- No placeholder reaches into a text that begins with one. -/
theorem placeholder?_cons_append (c : Char) (a : List Char) (t : Tier) (s : List Char) :
    placeholder? (c :: a ++ (t.placeholder.toList ++ s)) =
      (placeholder? (c :: a)).map fun found ↦
        (found.1, found.2 ++ (t.placeholder.toList ++ s)) := by
  have hstrip (u : Tier) := stripLead?_cons_append (separates_placeholder u t s).1 c a
  simp only [placeholder?, Tier.all, List.findSome?_cons, List.findSome?_nil, hstrip]
  cases stripLead? (Tier.placeholder .tablet).toList (c :: a) with
  | some rest => rfl
  | none => cases stripLead? (Tier.placeholder .mobile).toList (c :: a) <;> rfl

/-- Every placeholder is replaced, whatever stands around it. -/
theorem expandAtOnce_append_placeholder_append (a : List Char) (t : Tier) (s : List Char) :
    expandAtOnce (a ++ t.placeholder.toList ++ s) =
      expandAtOnce a ++ t.query.toList ++ expandAtOnce s := by
  rw [List.append_assoc]
  fun_induction expandAtOnce a with
  | case1 => exact expandAtOnce_of_placeholder?_eq_some (placeholder?_append t s)
  | case2 c a u rest hplaceholder ih =>
    have hfound := placeholder?_cons_append c a t s
    rw [hplaceholder] at hfound
    rw [expandAtOnce_of_placeholder?_eq_some hfound, ih]
    simp only [List.append_assoc]
  | case3 c a hplaceholder ih =>
    have hfound := placeholder?_cons_append c a t s
    rw [hplaceholder, List.cons_append] at hfound
    rw [List.cons_append, expandAtOnce_of_placeholder?_eq_none hfound, ih]
    rfl

/-! ### Expansion -/

/-- The expansion of a text is that by one pass from left to right, and that by one pass for each
tier in any order. Every placeholder of the text has its query put in its place, whatever stands
around it, and a text without one is kept. An expanded text holds no placeholder, so that a second
expansion changes nothing. -/
theorem expand_is_simultaneous (css : List Char) :
    expand css = expandAtOnce css ∧
    (∀ order : List Tier, (∀ t : Tier, t ∈ order) → expandInOrder order css = expand css) ∧
    (∀ (before : List Char) (t : Tier) (after : List Char),
      css = before ++ t.placeholder.toList ++ after →
      expand css = expand before ++ t.query.toList ++ expand after) ∧
    ((∀ t : Tier, ¬ t.placeholder.toList <:+: css) → expand css = css) ∧
    (∀ t : Tier, ¬ t.placeholder.toList <:+: expand css) ∧
    expand (expand css) = expand css := by
  have hpass (s : List Char) : expand s = expandAtOnce s := by
    rw [expand_eq_fill, expandAtOnce_eq_fill]
  refine ⟨hpass css, ?_, ?_, expand_eq_self, not_isInfix_expand css,
    expand_eq_self (not_isInfix_expand css)⟩
  · intro order horder
    rw [expandInOrder_eq_fill, fill_filled horder, expand_eq_fill]
  · rintro before t after rfl
    rw [hpass, hpass, hpass, expandAtOnce_append_placeholder_append]

/-- A placeholder inside the query of another one, and one that is the beginning of a longer
word. -/
def nestedPlaceholders : List Char :=
  "@media @media mobile\x7b@media tablets\x7d".toList

/-- The mobile tier first gives the same text, in which both placeholders are expanded. -/
theorem expand_is_simultaneous_of_nested :
    nestedPlaceholders = "@media ".toList ++ (Tier.placeholder .mobile).toList ++
      "\x7b@media tablets\x7d".toList ∧
    expand nestedPlaceholders = expand "@media ".toList ++ (Tier.query .mobile).toList ++
      expand "\x7b@media tablets\x7d".toList ∧
    (∀ t : Tier, t ∈ [Tier.mobile, Tier.tablet]) ∧
    expandInOrder [.mobile, .tablet] nestedPlaceholders = expand nestedPlaceholders ∧
    (∀ t : Tier, ¬ t.placeholder.toList <:+: "@media print".toList) ∧
    expand "@media print".toList = "@media print".toList := by
  have hsplit : nestedPlaceholders = "@media ".toList ++ (Tier.placeholder .mobile).toList ++
      "\x7b@media tablets\x7d".toList := by decide
  have horder : ∀ t : Tier, t ∈ [Tier.mobile, Tier.tablet] := fun t ↦ by cases t <;> decide
  have hprint : ∀ t : Tier, ¬ t.placeholder.toList <:+: "@media print".toList :=
    fun t ↦ by cases t <;> decide
  obtain ⟨-, hany, hplaceholder, -⟩ := expand_is_simultaneous nestedPlaceholders
  exact ⟨hsplit, hplaceholder _ .mobile _ hsplit, horder, hany _ horder, hprint,
    (expand_is_simultaneous "@media print".toList).2.2.2.1 hprint⟩

end Responsive.Media

import Responsive.Proofs.Media.Adjust

/-!
# What the search for mentions may miss

A boundary takes part only if the text mentions it: its number stands somewhere, in a query or not,
right before a closing parenthesis and with one space after the colon or none. Conditions are read
more freely, with any blanks after the colon and whatever comes behind the unit. So the search sees
other evidence than the pass that follows, and a condition may be missed that is spelled in neither
of the two ways.

For a conventional text nothing is missed: if every condition of a query that stands on the number
of a boundary has one of the two spellings, the text is adjusted as it is without the search. A
mention outside of the queries, or one for another tier, activates a boundary for which there is
nothing to do.

* `active_iff_offered`: the active boundaries are those on offer that the text mentions.
* `Conventional.active_iff`: a condition of a conventional text is evidence enough.
* `adjust_eq_retarget_offers`: the adjustment of a conventional text.
-/

set_option autoImplicit false
set_option relaxedAutoImplicit false

namespace Responsive.Media

open Text Media.Part

/-! ### The boundaries on offer -/

/-- The boundaries of a pair, whatever a text mentions: of each customized tier with a value, the
built-in width to the value, and the width below it, if the value begins with an integer in range,
to the integer less one. -/
inductive Offered (r : Resolved) : Boundary → Prop
  | upper (t : Tier) (custom : t ∈ r.custom) (set : r.get t ≠ "") :
      Offered r ⟨decimalNat t.builtinWidth, (r.get t).toList⟩
  | lower (t : Tier) (custom : t ∈ r.custom) (set : r.get t ≠ "") (n : Nat)
      (integer : BeginsWithInteger (r.get t).toList n) :
      Offered r ⟨decimalNat (t.builtinWidth - 1), decimal (n - 1)⟩

/-- The list of the boundaries on offer. -/
def offers (r : Resolved) : List Boundary :=
  Tier.all.flatMap fun t ↦
    if t ∈ r.custom ∧ r.get t ≠ "" then
      upperBoundary t (r.get t).toList :: (lowerBoundary? t (r.get t).toList).toList
    else []

/-- The numbers at which the boundaries of a tier lie: its built-in width, and the width below. -/
def oldNumbers (t : Tier) : List (List Char) :=
  [decimalNat t.builtinWidth, decimalNat (t.builtinWidth - 1)]

/-- The numbers at which the boundaries of any tier lie. -/
def boundaryNumbers : List (List Char) :=
  Tier.all.flatMap oldNumbers

theorem mem_offers_iff {r : Resolved} {b : Boundary} : b ∈ offers r ↔ Offered r b := by
  rw [offers, Tier.mem_flatMap_all_iff]
  constructor
  · rintro ⟨t, ⟨hcustom, hset⟩, hmem⟩
    rcases List.mem_cons.mp hmem with rfl | hlower
    · exact .upper t hcustom hset
    · obtain ⟨n, hinteger, rfl⟩ := mem_lowerBoundary?_iff.mp hlower
      exact .lower t hcustom hset n hinteger
  · intro h
    cases h with
    | upper t custom set => exact ⟨t, ⟨custom, set⟩, List.mem_cons_self⟩
    | lower t custom set n integer =>
      exact ⟨t, ⟨custom, set⟩,
        List.mem_cons_of_mem _ (mem_lowerBoundary?_iff.mpr ⟨n, integer, rfl⟩)⟩

/-- The active boundaries are those on offer that the text mentions. -/
theorem active_iff_offered {css : List Char} {r : Resolved} {b : Boundary} :
    Active css r b ↔ Offered r b ∧ Mentioned css b.old := by
  constructor
  · intro h
    cases h with
    | upper t custom set mentioned => exact ⟨.upper t custom set, mentioned⟩
    | lower t custom set mentioned n integer => exact ⟨.lower t custom set n integer, mentioned⟩
  · rintro ⟨h, hmentioned⟩
    cases h with
    | upper t custom set => exact .upper t custom set hmentioned
    | lower t custom set n integer => exact .lower t custom set hmentioned n integer

theorem Offered.exists_old_mem {r : Resolved} {b : Boundary} (h : Offered r b) :
    ∃ t ∈ r.custom, b.old ∈ oldNumbers t := by
  cases h with
  | upper t custom => exact ⟨t, custom, by simp [oldNumbers]⟩
  | lower t custom => exact ⟨t, custom, by simp [oldNumbers]⟩

theorem mem_boundaryNumbers {t : Tier} {digits : List Char} (h : digits ∈ oldNumbers t) :
    digits ∈ boundaryNumbers :=
  List.mem_flatMap.mpr ⟨t, t.mem_all, h⟩

/-- A boundary on offer is known by its old side. -/
theorem Offered.eq_of_old_eq {r : Resolved} {b b' : Boundary} (hb : Offered r b)
    (hb' : Offered r b') (h : b.old = b'.old) : b = b' := by
  -- Both are active in a text that mentions their old side.
  have hmentioned : Mentioned ((Condition.mk [] b.old).text ++ [')']) b.old :=
    ⟨[], .inl rfl, List.infix_rfl⟩
  exact (active_iff_offered.mpr ⟨hb, hmentioned⟩).eq_of_old_eq
    (active_iff_offered.mpr ⟨hb', h ▸ hmentioned⟩) h

theorem boundary?_offers_eq_some_iff {r : Resolved} {condition : Condition} {boundary : Boundary} :
    condition.boundary? (offers r) = some boundary ↔
      Offered r boundary ∧ boundary.old = condition.digits := by
  rw [Condition.boundary?_eq_some_iff fun b hb b' hb' ↦
    (mem_offers_iff.mp hb).eq_of_old_eq (mem_offers_iff.mp hb'), mem_offers_iff]

/-! ### Conventional texts -/

/-- Every condition of a query that stands on the number of a boundary is spelled in a way that a
mention is looked for: with one space after the colon or none, and right before a closing
parenthesis. -/
def Conventional (css : List Char) : Prop :=
  ∀ before condition, Candidate css before condition → EndsInQuery before →
    condition.digits ∈ boundaryNumbers →
      (condition.gap = [] ∨ condition.gap = [' ']) ∧ before ++ condition.text ++ [')'] <+: css

/-- Whether the condition that begins at a place of a text, if one does, keeps to the convention. -/
def conventionalAt (css : List Char) (place : Nat) : Bool :=
  match Condition.read? (css.drop place) with
  | none => true
  | some (condition, rest) =>
    !boundaryNumbers.contains condition.digits || !insideAfter false (css.take place) ||
      (condition.gap == [] || condition.gap == [' ']) && rest.head? == some ')'

theorem conventionalAt_append {before rest : List Char} {condition : Condition}
    (hwell : condition.WellFormed) :
    conventionalAt (before ++ condition.text ++ rest) before.length = true ↔
      (EndsInQuery before → condition.digits ∈ boundaryNumbers →
        (condition.gap = [] ∨ condition.gap = [' ']) ∧
          before ++ condition.text ++ [')'] <+: before ++ condition.text ++ rest) := by
  have hclosed : before ++ condition.text ++ [')'] <+: before ++ condition.text ++ rest ↔
      rest.head? = some ')' := by
    rw [List.prefix_append_right_inj]
    cases rest <;> simp [List.cons_prefix_cons, eq_comm]
  rw [hclosed, ← insideAfter_false_iff, conventionalAt, List.append_assoc, List.drop_left,
    List.take_left, Condition.read?_text_append hwell]
  cases insideAfter false before <;> by_cases hdigits : condition.digits ∈ boundaryNumbers <;>
    simp [hdigits]

/-- A text is conventional if it is so at every place. -/
theorem conventional_iff {css : List Char} :
    Conventional css ↔ (List.range css.length).all (conventionalAt css) = true := by
  rw [List.all_eq_true]
  constructor
  · intro hcss place hmem
    cases hread : Condition.read? (css.drop place) with
    | none => simp [conventionalAt, hread]
    | some found =>
      obtain ⟨condition, rest⟩ := found
      have hwell := Condition.wellFormed_of_read? hread
      have hsplit : css.take place ++ condition.text ++ rest = css := by
        rw [List.append_assoc, ← Condition.text_append_of_read?_eq_some hread,
          List.take_append_drop]
      have hlength : (css.take place).length = place :=
        List.length_take_of_le (List.mem_range.mp hmem).le
      have hplace := @conventionalAt_append (css.take place) rest condition hwell
      rw [hsplit, hlength] at hplace
      exact hplace.mpr fun hquery ↦ hcss _ _ ⟨hwell, rest, hsplit⟩ hquery
  · rintro hplaces before condition ⟨hwell, rest, rfl⟩
    refine (conventionalAt_append hwell).mp (hplaces before.length (List.mem_range.mpr ?_))
    simp [condition.text_eq_cons]

instance (css : List Char) : Decidable (Conventional css) :=
  decidable_of_iff _ conventional_iff.symm

/-- A condition of a query in a conventional text makes its boundary active. -/
theorem Conventional.active_iff {css before : List Char} {r : Resolved} {condition : Condition}
    {boundary : Boundary} (hcss : Conventional css) (hcandidate : Candidate css before condition)
    (hquery : EndsInQuery before) (hold : boundary.old = condition.digits) :
    Active css r boundary ↔ Offered r boundary := by
  rw [active_iff_offered, and_iff_left_iff_imp]
  intro hoffered
  obtain ⟨t, -, hnumber⟩ := hoffered.exists_old_mem
  obtain ⟨hgap, hclosed⟩ :=
    hcss before condition hcandidate hquery (hold ▸ mem_boundaryNumbers hnumber)
  rw [hold]
  exact ⟨condition.gap, hgap,
    (List.append_assoc _ _ _ ▸ List.suffix_append before _).isInfix.trans hclosed.isInfix⟩

/-- A conventional text, for a pair other than the built-in one, is adjusted as if every boundary on
offer were mentioned. Each condition in a query that is on the number of one of them moves, and
every other character is copied. -/
theorem adjust_eq_retarget_offers (css : List Char) (r : Resolved) (hcss : Conventional css)
    (hvalues : r.values ≠ Breakpoints.builtin) :
    adjust css r = retarget (offers r) css ∧
    ∃ parts : List Part, sources parts = css ∧ targets parts = adjust css r ∧
      ∀ before condition boundary,
        (∃ lead rest, parts = lead ++ moved condition boundary :: rest ∧ sources lead = before) ↔
          Candidate css before condition ∧ EndsInQuery before ∧ Offered r boundary ∧
            boundary.old = condition.digits := by
  have hvalues' : r.isBuiltin = false := by
    rw [Resolved.isBuiltin, Bool.eq_false_iff]
    exact mt Breakpoints.isBuiltin_iff.mp hvalues
  have hadjust : adjust css r = retarget (offers r) css := by
    rw [adjust_eq_retarget]
    refine retarget_congr fun before condition hcandidate hquery ↦ Option.ext fun boundary ↦ ?_
    rw [boundary?_movingBoundaries_eq_some_iff, boundary?_offers_eq_some_iff,
      and_iff_right hvalues']
    exact and_congr_left fun hold ↦ hcss.active_iff hcandidate hquery hold
  refine ⟨hadjust, partsFrom (offers r) false css, sources_partsFrom _ _ _, ?_, ?_⟩
  · rw [hadjust, retarget_eq_targets]
  · intro before condition boundary
    rw [exists_moved_iff, boundary?_offers_eq_some_iff]

/-- A rule at both widths of the tablet tier, and a declaration that is spelled in another way. -/
def tabletRule : List Char :=
  "@media (min-width:1024px) and (max-width: 1023px)\x7ba\x7bwidth:  768px\x7d\x7d".toList

/-- The rule is conventional, so nothing is missed for the widths 1200 and 600. -/
theorem adjust_eq_retarget_offers_of_rule :
    Conventional tabletRule ∧
      adjust tabletRule ⟨⟨"1200", "600"⟩, ⟨true, true, 0⟩⟩ =
        retarget (offers ⟨⟨"1200", "600"⟩, ⟨true, true, 0⟩⟩) tabletRule ∧
      adjust tabletRule ⟨⟨"1200", "600"⟩, ⟨true, true, 0⟩⟩ ≠ tabletRule := by
  have hrule : Conventional tabletRule := by decide +kernel
  refine ⟨hrule, (adjust_eq_retarget_offers _ _ hrule (by decide)).1, ?_⟩
  decide +kernel

/-- Behind two spaces a condition is missed. -/
example :
    adjust "@media (width:  1024px)".toList ⟨⟨"1200", "768"⟩, .single .tablet⟩ ≠
      retarget (offers ⟨⟨"1200", "768"⟩, .single .tablet⟩) "@media (width:  1024px)".toList := by
  decide +kernel

end Responsive.Media

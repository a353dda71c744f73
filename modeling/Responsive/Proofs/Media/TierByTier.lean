import Responsive.Proofs.Media.Idempotence
import Responsive.Proofs.Media.Mention
import Responsive.Proofs.Media.Skeleton

/-!
# One pass for both tiers

Both tiers are adjusted in one pass. Two passes, one for each tier, would give the same text,
whichever comes first, provided that no number that one of them puts in is one that the other looks
for.

Two passes are one because the first leaves every query where it is (`read_retarget`), and because
in a query it makes no condition and breaks none: what it puts in is a condition of its own, or none
at all if it is a negative number (`substitute_substitute`). The boundaries of the second pass are
those that the old text mentions, as the first pass neither puts in nor takes away a mention of them
(`mentioned_retarget_iff`).

* `retarget_retarget`: two passes in turn, with any boundaries to numbers.
* `adjust_tier_by_tier`: both tiers at once, and one after the other.
-/

set_option autoImplicit false
set_option relaxedAutoImplicit false

namespace Responsive.Media

open Text Media.Part

theorem Sheet.mapQueries_mapQueries (f g : List Char → List Char) (sheet : Sheet) :
    (sheet.mapQueries f).mapQueries g = sheet.mapQueries (g ∘ f) := by
  induction sheet with
  | plain s => rfl
  | media lead query rest ih => simp only [mapQueries, ih, Function.comp_apply]

/-! ### Substituting twice -/

section Substitute

variable {boundaries : List Boundary}

theorem substitute_append_of_not_mem {a : List Char} (ha : 'w' ∉ a) (s : List Char) :
    substitute boundaries (a ++ s) = a ++ substitute boundaries s := by
  rw [← targets_queryParts, queryParts_append_of_not_mem ha, targets_append, targets_map_copied,
    targets_queryParts]

theorem substitute_of_read?_eq_none {c : Char} {s : List Char}
    (h : Condition.read? (c :: s) = none) :
    substitute boundaries (c :: s) = c :: substitute boundaries s := by
  rw [← targets_queryParts, queryParts_of_read?_eq_none h, targets_cons, targets_queryParts]
  rfl

theorem substitute_text_append {condition : Condition} (hwell : condition.WellFormed)
    (s : List Char) :
    substitute boundaries (condition.text ++ s) =
      targets (condition.parts boundaries) ++ substitute boundaries s := by
  rw [← targets_queryParts, queryParts_of_read?_eq_some (Condition.read?_text_append hwell s),
    targets_append, targets_queryParts]

/-- A number that was put in stays if it is no old side. -/
theorem substitute_replacement_append {b : Boundary} (hb : b.Numeric)
    (hnew : ∀ b' ∈ boundaries, b'.old ≠ b.new) (s : List Char) :
    substitute boundaries (b.replacement ++ s) = b.replacement ++ substitute boundaries s := by
  rcases hb with hminus | ⟨hne, hdigits⟩
  · -- Behind the colon there is a minus sign, so no condition is read.
    have hreplacement : b.replacement = 'w' :: (widthWord.tail ++ (['-', '1'] ++ unitWord)) := by
      simp [Boundary.replacement, hminus, widthWord]
    have hread : Condition.read? (b.replacement ++ s) = none := by
      rw [hreplacement]
      rfl
    have htail : 'w' ∉ widthWord.tail ++ (['-', '1'] ++ unitWord) := by decide
    rw [hreplacement, List.cons_append] at hread ⊢
    rw [substitute_of_read?_eq_none hread, substitute_append_of_not_mem htail]
    rfl
  · have hwell : (Condition.mk [] b.new).WellFormed :=
      ⟨by simp, hne, fun c hc ↦ isDecimalDigit_of_isDigit (hdigits c hc)⟩
    have htext : b.replacement = (Condition.mk [] b.new).text := by
      simp [Boundary.replacement, Condition.text]
    have hnone : (Condition.mk [] b.new).boundary? boundaries = none :=
      List.find?_eq_none.mpr fun b' hb' ↦ by simpa using hnew b' hb'
    rw [htext, substitute_text_append hwell, Condition.parts, hnone, targets_map_copied]

/-- A rewritten text begins with the character that the text begins with. -/
theorem head?_substitute (s : List Char) : (substitute boundaries s).head? = s.head? := by
  fun_induction substitute boundaries s with
  | case1 => rfl
  | case2 c s condition rest hread boundary hboundary ih =>
    rw [Condition.text_append_of_read?_eq_some hread]
    rfl
  | case3 c s condition rest hread hboundary ih =>
    rw [Condition.text_append_of_read?_eq_some hread]
    rfl
  | case4 c s hread ih => rfl

/-- Rewriting what follows makes no condition: it changes nothing before the next letter with which
a condition may begin. -/
theorem read?_cons_substitute {c : Char} {s : List Char} (h : Condition.read? (c :: s) = none) :
    Condition.read? (c :: substitute boundaries s) = none := by
  have hlead : 'w' ∉ s.takeWhile (· != 'w') := fun hmem ↦ by
    simpa using List.mem_takeWhile_imp hmem
  have hfenced {t : List Char} (ht : t.head? = (s.dropWhile (· != 'w')).head?) : Fenced t := by
    intro x hx
    have hnot := List.head?_dropWhile_not (· != 'w') s
    rw [← ht, hx] at hnot
    obtain rfl : x = 'w' := by simpa using hnot
    decide
  rw [← List.takeWhile_append_dropWhile (p := (· != 'w')) (l := s), ← List.cons_append,
    Condition.read?_cons_append (hfenced rfl)] at h
  rw [← List.takeWhile_append_dropWhile (p := (· != 'w')) (l := s),
    substitute_append_of_not_mem hlead, ← List.cons_append,
    Condition.read?_cons_append (hfenced (head?_substitute _)), Option.map_eq_none_iff.mp h]
  rfl

/-- Two substitutions in turn are one, if the first puts in no number that the second looks for. -/
theorem substitute_substitute {first second : List Boundary}
    (hnumeric : ∀ b ∈ first, b.Numeric) (hnew : ∀ b ∈ first, ∀ b' ∈ second, b'.old ≠ b.new)
    (s : List Char) :
    substitute second (substitute first s) = substitute (first ++ second) s := by
  have happend (condition : Condition) : condition.boundary? (first ++ second) =
      (condition.boundary? first).or (condition.boundary? second) := List.find?_append
  fun_induction substitute first s with
  | case1 => simp [substitute]
  | case2 c s condition rest hread boundary hboundary ih =>
    have hmem : boundary ∈ first := List.mem_of_find?_eq_some hboundary
    rw [substitute_replacement_append (hnumeric boundary hmem) (hnew boundary hmem), ih,
      Condition.text_append_of_read?_eq_some hread,
      substitute_text_append (Condition.wellFormed_of_read? hread), Condition.parts, happend,
      hboundary]
    simp [target]
  | case3 c s condition rest hread hboundary ih =>
    have hwell := Condition.wellFormed_of_read? hread
    rw [Condition.text_append_of_read?_eq_some hread, substitute_text_append hwell, ih,
      substitute_text_append hwell, Condition.parts, Condition.parts, happend, hboundary,
      Option.none_or]
  | case4 c s hread ih =>
    rw [substitute_of_read?_eq_none (read?_cons_substitute hread), ih,
      substitute_of_read?_eq_none hread]

end Substitute

/-! ### Two passes -/

/-- A number holds no brace. -/
theorem Boundary.Numeric.brace_not_mem_new {b : Boundary} (hb : b.Numeric) : '\x7b' ∉ b.new := by
  rcases hb with hminus | ⟨-, hdigits⟩
  · rw [hminus]
    decide
  · intro hmem
    exact absurd (hdigits _ hmem) (by decide)

section Passes

variable {boundaries : List Boundary} (hnumeric : ∀ b ∈ boundaries, b.Numeric)
include hnumeric

/-- Two passes in turn are one, if the first puts in no number that the second looks for. -/
theorem retarget_retarget {second : List Boundary}
    (hnew : ∀ b ∈ boundaries, ∀ b' ∈ second, b'.old ≠ b.new) (css : List Char) :
    retarget second (retarget boundaries css) = retarget (boundaries ++ second) css := by
  have hfused : substitute second ∘ substitute boundaries = substitute (boundaries ++ second) :=
    funext fun query ↦ substitute_substitute hnumeric hnew query
  rw [retarget_eq_retargeted second, retargeted,
    read_retarget fun b hb ↦ (hnumeric b hb).brace_not_mem_new,
    Sheet.mapQueries_mapQueries, hfused, retarget_eq_retargeted, retargeted]

/-- A pass neither puts in a mention of a number nor takes one away, if the number is on neither
side of its boundaries. -/
theorem mentioned_retarget_iff {css digits : List Char}
    (hwell : (Condition.mk [] digits).WellFormed)
    (hsides : ∀ b ∈ boundaries, b.old ≠ digits ∧ b.new ≠ digits) :
    Mentioned (retarget boundaries css) digits ↔ Mentioned css digits := by
  have hproper {condition : Condition} {boundary : Boundary}
      (h : moved condition boundary ∈ partsFrom boundaries false css) : boundary ∈ boundaries :=
    List.mem_of_find?_eq_some (proper_of_mem_partsFrom h).2
  rw [retarget_eq_targets]
  constructor
  · intro h
    rcases mentioned_of_targets (fun _ _ hmem ↦ hnumeric _ (hproper hmem)) hwell h with
      ⟨condition, boundary, hmem, hnew⟩ | hmentioned
    · exact absurd hnew (hsides boundary (hproper hmem)).2
    · rwa [sources_partsFrom] at hmentioned
  · rintro ⟨gap, hgap, x, y, rfl⟩
    have hnone : (Condition.mk gap digits).boundary? boundaries = none :=
      List.find?_eq_none.mpr fun b hb ↦ by simpa using (hsides b hb).1
    have hfenced : Fenced ((Condition.mk gap digits).text ++ ([')'] ++ y)) := by
      rw [Condition.text_eq_cons, List.cons_append, fenced_cons]
      decide
    refine ⟨gap, hgap, targets (partsFrom boundaries false x),
      targets (partsFrom boundaries (insideAfter false x) y), ?_⟩
    rw [List.append_assoc x, List.append_assoc _ [')'], partsFrom_append hfenced,
      partsFrom_text_append_of_boundary?_eq_none (hwell.of_gap hgap) hnone,
      partsFrom_append_of_not_mem (by decide) (by decide) (by decide)]
    simp [target]

end Passes

/-! ### Tier by tier -/

/-- The texts that a number is put in as: the number itself, and the number less one. -/
def newNumbers (value : List Char) : List (List Char) :=
  [value, decimal (digitsValue value - 1 : Int)]

/-- The sides of a boundary on offer, if the customized values are numbers. -/
theorem Offered.exists_tier {r : Resolved} {b : Boundary} (hnumeric : NumericValues r)
    (h : Offered r b) :
    ∃ t ∈ r.custom, b.old ∈ oldNumbers t ∧ b.new ∈ newNumbers (r.get t).toList := by
  cases h with
  | upper t custom => exact ⟨t, custom, List.mem_cons_self, List.mem_cons_self⟩
  | lower t custom set n integer =>
    obtain ⟨rfl, -⟩ := (beginsWithInteger_iff (hnumeric t custom) (by simpa using set)).mp integer
    exact ⟨t, custom, by simp [oldNumbers], by simp [newNumbers]⟩

/-- Of a pair with more tiers customized the boundaries of each tier are on offer as before. -/
theorem Offered.mono {v : Breakpoints} {custom custom' : TierSet} {b : Boundary}
    (hle : ∀ t : Tier, t ∈ custom → t ∈ custom') (h : Offered ⟨v, custom⟩ b) :
    Offered ⟨v, custom'⟩ b := by
  cases h with
  | upper t mem set => exact .upper t (hle t mem) set
  | lower t mem set n integer => exact .lower (r := ⟨v, custom'⟩) t (hle t mem) set n integer

theorem mem_single_iff {t u : Tier} : u ∈ TierSet.single t ↔ u = t := by
  cases t <;> cases u <;> decide

/-- What is on offer of a pair is on offer of one of its tiers. -/
theorem offered_iff_exists_single {v : Breakpoints} {custom : TierSet} {b : Boundary} :
    Offered ⟨v, custom⟩ b ↔ ∃ t ∈ custom, Offered ⟨v, .single t⟩ b := by
  constructor
  · intro h
    cases h with
    | upper t mem set => exact ⟨t, mem, .upper t (mem_single_iff.mpr rfl) set⟩
    | lower t mem set n integer =>
      exact ⟨t, mem, .lower (r := ⟨v, .single t⟩) t (mem_single_iff.mpr rfl) set n integer⟩
  · rintro ⟨t, hmem, h⟩
    exact h.mono fun u hu ↦ mem_single_iff.mp hu ▸ hmem

theorem not_mem_oldNumbers {t u : Tier} (htu : u ≠ t) :
    ∀ text ∈ oldNumbers t, text ∉ oldNumbers u := by
  cases t <;> cases u <;> first | exact absurd rfl htu | decide

theorem wellFormed_of_mem_oldNumbers {t : Tier} {text : List Char} (h : text ∈ oldNumbers t) :
    (Condition.mk [] text).WellFormed := by
  have hgap : ∀ c ∈ ([] : List Char), isBlank c = true := by simp
  simp only [oldNumbers, List.mem_cons, List.not_mem_nil, or_false] at h
  rcases h with rfl | rfl
  · exact Condition.wellFormed_decimalNat hgap _
  · exact Condition.wellFormed_decimalNat hgap _

section Tiers

variable {v : Breakpoints} (hdigits : ∀ t : Tier, ∀ c ∈ (v.get t).toList, c.isDigit = true)
  {t u : Tier} (htu : u ≠ t) (hapart : ∀ text ∈ newNumbers (v.get t).toList, text ∉ oldNumbers u)
include hdigits

/-- What is known of the boundaries that move for one tier. -/
theorem sides_of_mem_movingBoundaries {css : List Char} {b : Boundary}
    (h : b ∈ movingBoundaries css ⟨v, .single t⟩) :
    b.Numeric ∧ b.old ∈ oldNumbers t ∧ b.new ∈ newNumbers (v.get t).toList := by
  have hnumeric : NumericValues ⟨v, .single t⟩ := fun u _ ↦ hdigits u
  have hoffered := (active_iff_offered.mp (mem_movingBoundaries_iff.mp h).2).1
  obtain ⟨u, hu, hold, hnew⟩ := hoffered.exists_tier hnumeric
  obtain rfl := mem_single_iff.mp hu
  exact ⟨hoffered.numeric hnumeric, hold, hnew⟩

include htu hapart

/-- The boundaries of one tier that are active are so after the other tier was adjusted. -/
theorem mem_movingBoundaries_adjust_iff {css : List Char} {b : Boundary} :
    b ∈ movingBoundaries (adjust css ⟨v, .single t⟩) ⟨v, .single u⟩ ↔
      b ∈ movingBoundaries css ⟨v, .single u⟩ := by
  have hsides {b' : Boundary} (hb' : b' ∈ movingBoundaries css ⟨v, .single t⟩) :=
    sides_of_mem_movingBoundaries hdigits hb'
  have hnumeric : NumericValues ⟨v, .single u⟩ := fun w _ ↦ hdigits w
  rw [mem_movingBoundaries_iff, mem_movingBoundaries_iff, active_iff_offered, active_iff_offered]
  refine and_congr_right fun _ ↦ and_congr_right fun hoffered ↦ ?_
  obtain ⟨w, hw, hold, -⟩ := hoffered.exists_tier hnumeric
  obtain rfl := mem_single_iff.mp hw
  rw [adjust_eq_retarget css]
  refine mentioned_retarget_iff (fun b' hb' ↦ (hsides hb').1) (wellFormed_of_mem_oldNumbers hold)
    fun b' hb' ↦ ⟨fun h ↦ ?_, fun h ↦ ?_⟩
  · exact not_mem_oldNumbers htu b'.old (hsides hb').2.1 (h ▸ hold)
  · exact hapart b'.new (hsides hb').2.2 (h ▸ hold)

/-- Adjusting both tiers is adjusting one of them and then the other. -/
theorem adjust_eq_adjust_adjust {both : TierSet} (hboth : ∀ t : Tier, t ∈ both)
    (css : List Char) :
    adjust css ⟨v, both⟩ = adjust (adjust css ⟨v, .single t⟩) ⟨v, .single u⟩ := by
  -- One pass for both tiers moves what the two passes move between them.
  have hmem (b : Boundary) : b ∈ movingBoundaries css ⟨v, both⟩ ↔
      b ∈ movingBoundaries css ⟨v, .single t⟩ ++
        movingBoundaries (adjust css ⟨v, .single t⟩) ⟨v, .single u⟩ := by
    have htiers : (∃ w ∈ both, Offered ⟨v, .single w⟩ b) ↔
        Offered ⟨v, .single t⟩ b ∨ Offered ⟨v, .single u⟩ b := by
      refine ⟨fun ⟨w, _, h⟩ ↦ ?_, fun h ↦ h.elim (⟨t, hboth t, ·⟩) (⟨u, hboth u, ·⟩)⟩
      have hw : w = t ∨ w = u := by
        cases t <;> cases u <;> cases w <;> simp_all
      rcases hw with rfl | rfl
      · exact .inl h
      · exact .inr h
    have hvalues (custom : TierSet) : Resolved.isBuiltin ⟨v, custom⟩ = v.isBuiltin := rfl
    rw [List.mem_append, mem_movingBoundaries_adjust_iff hdigits htu hapart]
    simp only [mem_movingBoundaries_iff, active_iff_offered, hvalues]
    rw [offered_iff_exists_single, htiers]
    tauto
  -- The second pass leaves alone what the first one put in.
  have hnew : ∀ b ∈ movingBoundaries css ⟨v, .single t⟩,
      ∀ b' ∈ movingBoundaries (adjust css ⟨v, .single t⟩) ⟨v, .single u⟩, b'.old ≠ b.new := by
    intro b hb b' hb' h
    have hnumber := (sides_of_mem_movingBoundaries hdigits hb).2.2
    exact hapart b.new hnumber (h ▸ (sides_of_mem_movingBoundaries hdigits hb').2.1)
  calc adjust css ⟨v, both⟩
      = retarget (movingBoundaries css ⟨v, both⟩) css := adjust_eq_retarget css _
    _ = retarget (movingBoundaries css ⟨v, .single t⟩ ++
          movingBoundaries (adjust css ⟨v, .single t⟩) ⟨v, .single u⟩) css :=
        retarget_congr_of_mem_iff eq_of_old_eq_of_mem_movingBoundaries hmem css
    _ = retarget (movingBoundaries (adjust css ⟨v, .single t⟩) ⟨v, .single u⟩)
          (retarget (movingBoundaries css ⟨v, .single t⟩) css) :=
        (retarget_retarget (fun _ hb ↦ (sides_of_mem_movingBoundaries hdigits hb).1) hnew css).symm
    _ = adjust (adjust css ⟨v, .single t⟩) ⟨v, .single u⟩ := by
        rw [← adjust_eq_retarget css, ← adjust_eq_retarget]

end Tiers

/-- One pass for both tiers and one pass for each of them, in either order, if both values are
numbers and neither tier puts in a number that the other one looks for. -/
theorem adjust_tier_by_tier (css : List Char) (v : Breakpoints) (both : TierSet)
    (hboth : ∀ t : Tier, t ∈ both)
    (hdigits : ∀ t : Tier, ∀ c ∈ (v.get t).toList, c.isDigit = true)
    (htablet : ∀ text ∈ newNumbers v.tablet.toList, text ∉ ["768".toList, "767".toList])
    (hmobile : ∀ text ∈ newNumbers v.mobile.toList, text ∉ ["1024".toList, "1023".toList]) :
    adjust css ⟨v, both⟩ = adjust (adjust css ⟨v, .single .tablet⟩) ⟨v, .single .mobile⟩ ∧
      adjust css ⟨v, both⟩ = adjust (adjust css ⟨v, .single .mobile⟩) ⟨v, .single .tablet⟩ := by
  have hmobileOld : oldNumbers .mobile = ["768".toList, "767".toList] := by decide
  have htabletOld : oldNumbers .tablet = ["1024".toList, "1023".toList] := by decide
  constructor
  · exact adjust_eq_adjust_adjust hdigits (by decide) (hmobileOld ▸ htablet) hboth css
  · exact adjust_eq_adjust_adjust hdigits (by decide) (htabletOld ▸ hmobile) hboth css

/-- A query at the widths of both tiers. -/
def bothWidths : List Char :=
  "@media (min-width: 768px) and (max-width:1023px)\x7b\x7d".toList

/-- For the widths 1200 and 600 the order of the tiers does not matter. -/
theorem adjust_tier_by_tier_of_numbers :
    (∀ text ∈ newNumbers "1200".toList, text ∉ ["768".toList, "767".toList]) ∧
    (∀ text ∈ newNumbers "600".toList, text ∉ ["1024".toList, "1023".toList]) ∧
    adjust bothWidths ⟨⟨"1200", "600"⟩, ⟨true, true, 0⟩⟩ =
      adjust (adjust bothWidths ⟨⟨"1200", "600"⟩, .single .tablet⟩)
        ⟨⟨"1200", "600"⟩, .single .mobile⟩ ∧
    adjust bothWidths ⟨⟨"1200", "600"⟩, ⟨true, true, 0⟩⟩ =
      adjust (adjust bothWidths ⟨⟨"1200", "600"⟩, .single .mobile⟩)
        ⟨⟨"1200", "600"⟩, .single .tablet⟩ := by
  have htablet : ∀ text ∈ newNumbers "1200".toList, text ∉ ["768".toList, "767".toList] := by
    decide
  have hmobile : ∀ text ∈ newNumbers "600".toList, text ∉ ["1024".toList, "1023".toList] := by
    decide
  exact ⟨htablet, hmobile, adjust_tier_by_tier bothWidths ⟨"1200", "600"⟩ ⟨true, true, 0⟩
    (fun t ↦ by cases t <;> decide)
    (fun t ↦ by cases t <;> exact List.all_eq_true.mp (by decide)) htablet hmobile⟩

/-- A tablet width of 769 puts in the built-in mobile width, which the second of two passes moves
again. -/
example :
    adjust bothWidths ⟨⟨"769", "600"⟩, ⟨true, true, 0⟩⟩ ≠
      adjust (adjust bothWidths ⟨⟨"769", "600"⟩, .single .tablet⟩)
        ⟨⟨"769", "600"⟩, .single .mobile⟩ := by
  decide +kernel

end Responsive.Media

import Responsive.Media.Adjust
import Responsive.Proofs.Media.Pass

/-!
# What moves in a stylesheet

The meaning of the adjustment of a stylesheet, place by place. A candidate is an occurrence of a
width condition. It moves if it stands in a query, that is if an `@media` stands before it with no
opening brace between, and if its number is an active boundary; every other character is copied.
Which boundaries are active depends on the pair, and on the whole text by what it mentions.

* `adjust_moves_exactly_candidates`: the adjusted text as a list of parts, in which the moved parts
  are the candidates in queries on active boundaries; the pass over the text that computes it, with
  all its slices in range; and candidates do not overlap.
-/

set_option autoImplicit false
set_option relaxedAutoImplicit false

namespace Responsive.Media

open Text Media.Part

/-! ### Active boundaries -/

/-- A condition with that number stands in the text right before a closing parenthesis, with one
space after the colon or none. -/
def Mentioned (css digits : List Char) : Prop :=
  ∃ gap, (gap = [] ∨ gap = [' ']) ∧ Condition.text ⟨gap, digits⟩ ++ [')'] <:+: css

/-- The value begins, after its leading blanks, with a decimal integer in range. -/
def BeginsWithInteger (value : List Char) (n : Nat) : Prop :=
  ∃ digits rest, trim value = digits ++ rest ∧ digits ≠ [] ∧ (∀ c ∈ digits, c.isDigit = true) ∧
    (∀ c ∈ rest.head?, c.isDigit = false) ∧ digitsValue digits = n ∧ n < widthLimit

/-- The boundaries that move in a text: of each customized tier with a value, the built-in width, if
the text mentions it, to the value itself, and the width below it, if the text mentions that and the
value begins with an integer, to the integer less one. -/
inductive Active (css : List Char) (r : Resolved) : Boundary → Prop
  | upper (t : Tier) (custom : t ∈ r.custom) (set : r.get t ≠ "")
      (mentioned : Mentioned css (decimalNat t.builtinWidth)) :
      Active css r ⟨decimalNat t.builtinWidth, (r.get t).toList⟩
  | lower (t : Tier) (custom : t ∈ r.custom) (set : r.get t ≠ "")
      (mentioned : Mentioned css (decimalNat (t.builtinWidth - 1))) (n : Nat)
      (integer : BeginsWithInteger (r.get t).toList n) :
      Active css r ⟨decimalNat (t.builtinWidth - 1), decimal (n - 1)⟩

theorem mentions_eq_true_iff {css : List Char} {width : Nat} :
    mentions css width = true ↔ Mentioned css (decimalNat width) := by
  rw [mentions, Bool.or_eq_true, occurs_eq_true_iff, occurs_eq_true_iff, Mentioned]
  simp [Condition.text, or_and_right, exists_or, or_comm]

theorem leadingInteger?_eq_some_iff {value : List Char} {n : Nat} :
    leadingInteger? value = some n ↔ BeginsWithInteger value n := by
  constructor
  · intro h
    simp only [leadingInteger?] at h
    split at h
    · contradiction
    next hguard =>
      simp only [Bool.or_eq_true, List.isEmpty_iff, decide_eq_true_eq, not_or, not_le] at hguard
      obtain rfl := Option.some.inj h
      refine ⟨_, (trim value).dropWhile Char.isDigit, List.takeWhile_append_dropWhile.symm,
        hguard.1, fun c hc ↦ List.mem_takeWhile_imp hc, fun c hc ↦ ?_, rfl, hguard.2⟩
      have hnot := List.head?_dropWhile_not Char.isDigit (trim value)
      rw [hc] at hnot
      simpa using hnot
  · rintro ⟨digits, rest, htrim, hne, hdigits, hrest, rfl, hlt⟩
    have htake : (trim value).takeWhile Char.isDigit = digits := by
      rw [htrim, takeWhile_append_of_head? hrest, List.takeWhile_eq_self_iff.mpr hdigits]
    have hempty : digits.isEmpty = false := by
      cases digits with
      | nil => exact absurd rfl hne
      | cons c digits => rfl
    have hrange : ¬ decide (widthLimit ≤ digitsValue digits) = true :=
      fun h ↦ Nat.not_le_of_lt hlt (of_decide_eq_true h)
    rw [leadingInteger?, htake, hempty, Bool.false_or, if_neg hrange]

theorem mem_lowerBoundary?_iff {t : Tier} {value : List Char} {b : Boundary} :
    b ∈ (lowerBoundary? t value).toList ↔
      ∃ n : Nat, BeginsWithInteger value n ∧
        b = ⟨decimalNat (t.builtinWidth - 1), decimal (n - 1)⟩ := by
  simp only [Option.mem_toList, lowerBoundary?, Option.map_eq_some_iff,
    leadingInteger?_eq_some_iff]
  exact exists_congr fun n ↦ and_congr Iff.rfl eq_comm

theorem mem_tierBoundaries_iff {css value : List Char} {t : Tier} {b : Boundary} :
    b ∈ tierBoundaries css t value ↔
      (Mentioned css (decimalNat t.builtinWidth) ∧ b = ⟨decimalNat t.builtinWidth, value⟩) ∨
        (Mentioned css (decimalNat (t.builtinWidth - 1)) ∧ ∃ n : Nat, BeginsWithInteger value n ∧
          b = ⟨decimalNat (t.builtinWidth - 1), decimal (n - 1)⟩) := by
  unfold tierBoundaries
  rw [List.mem_append, ← mentions_eq_true_iff, ← mentions_eq_true_iff]
  refine or_congr ?_ ?_
  · split <;> simp_all [upperBoundary]
  · split
    next hmentions => rw [mem_lowerBoundary?_iff, and_iff_right hmentions]
    next hmentions => simp [hmentions]

theorem mem_activeBoundaries_iff {css : List Char} {r : Resolved} {b : Boundary} :
    b ∈ activeBoundaries css r ↔ Active css r b := by
  have hguard (t : Tier) :
      (r.custom.contains t && r.values.isSet t) = true ↔ t ∈ r.custom ∧ r.get t ≠ "" := by
    rw [Bool.and_eq_true]
    exact and_congr Iff.rfl (by simp [Breakpoints.isSet, Resolved.get])
  rw [activeBoundaries, Tier.mem_flatMap_all_iff]
  simp only [hguard, mem_tierBoundaries_iff]
  constructor
  · rintro ⟨t, ⟨hcustom, hset⟩, ⟨hmentioned, rfl⟩ | ⟨hmentioned, n, hinteger, rfl⟩⟩
    · exact .upper t hcustom hset hmentioned
    · exact .lower t hcustom hset hmentioned n hinteger
  · intro h
    cases h with
    | upper t custom set mentioned => exact ⟨t, ⟨custom, set⟩, .inl ⟨mentioned, rfl⟩⟩
    | lower t custom set mentioned n integer =>
      exact ⟨t, ⟨custom, set⟩, .inr ⟨mentioned, n, integer, rfl⟩⟩

theorem decimalNat_builtinWidth_ne (t t' : Tier) :
    decimalNat t.builtinWidth ≠ decimalNat (t'.builtinWidth - 1) := by
  cases t <;> cases t' <;> decide

theorem eq_of_decimalNat_builtinWidth_eq {t t' : Tier}
    (h : decimalNat t.builtinWidth = decimalNat t'.builtinWidth) : t = t' := by
  revert h
  cases t <;> cases t' <;> decide

theorem eq_of_decimalNat_builtinWidth_sub_one_eq {t t' : Tier}
    (h : decimalNat (t.builtinWidth - 1) = decimalNat (t'.builtinWidth - 1)) : t = t' := by
  revert h
  cases t <;> cases t' <;> decide

/-- An active boundary is known by its old side. -/
theorem Active.eq_of_old_eq {css : List Char} {r : Resolved} {b b' : Boundary}
    (hb : Active css r b) (hb' : Active css r b') (h : b.old = b'.old) : b = b' := by
  cases hb with
  | upper t =>
    cases hb' with
    | upper t' => rw [eq_of_decimalNat_builtinWidth_eq h]
    | lower t' => exact absurd h (decimalNat_builtinWidth_ne t t')
  | lower t _ _ _ n hn =>
    cases hb' with
    | upper t' => exact absurd h.symm (decimalNat_builtinWidth_ne t' t)
    | lower t' _ _ _ n' hn' =>
      obtain rfl := eq_of_decimalNat_builtinWidth_sub_one_eq h
      rw [← leadingInteger?_eq_some_iff] at hn hn'
      rw [Option.some.inj (hn.symm.trans hn')]

theorem Active.hasCustom {css : List Char} {r : Resolved} {b : Boundary} (h : Active css r b) :
    r.hasCustom = true := by
  obtain ⟨t, ht⟩ : ∃ t : Tier, t ∈ r.custom := by
    cases h with
    | upper t custom => exact ⟨t, custom⟩
    | lower t custom => exact ⟨t, custom⟩
  exact Resolved.hasCustom_of_mem ht

/-- The boundaries that a text is rewritten with: none at all if no tier is customized or both
values are the built-in ones. -/
def movingBoundaries (css : List Char) (r : Resolved) : List Boundary :=
  if !r.hasCustom || r.isBuiltin then [] else activeBoundaries css r

theorem mem_movingBoundaries_iff {css : List Char} {r : Resolved} {b : Boundary} :
    b ∈ movingBoundaries css r ↔ r.isBuiltin = false ∧ Active css r b := by
  rw [movingBoundaries]
  split
  next h =>
    rw [Bool.or_eq_true, Bool.not_eq_true'] at h
    refine iff_of_false (List.not_mem_nil) fun ⟨hvalues, hactive⟩ ↦ ?_
    rw [hactive.hasCustom, hvalues] at h
    simp at h
  next h =>
    rw [Bool.or_eq_true, not_or, Bool.not_eq_true (r.isBuiltin)] at h
    rw [mem_activeBoundaries_iff]
    exact ⟨fun hactive ↦ ⟨h.2, hactive⟩, fun hactive ↦ hactive.2⟩

/-- Among boundaries that are known by their old sides, the one that is found for a condition is the
one at its number. -/
theorem Condition.boundary?_eq_some_iff {boundaries : List Boundary} {condition : Condition}
    {boundary : Boundary}
    (h : ∀ b ∈ boundaries, ∀ b' ∈ boundaries, b.old = b'.old → b = b') :
    condition.boundary? boundaries = some boundary ↔
      boundary ∈ boundaries ∧ boundary.old = condition.digits := by
  constructor
  · exact fun hfind ↦ ⟨List.mem_of_find?_eq_some hfind, by simpa using List.find?_some hfind⟩
  · rintro ⟨hmem, hold⟩
    cases hfind : condition.boundary? boundaries with
    | none =>
      have hnone := List.find?_eq_none.mp hfind boundary hmem
      simp [hold] at hnone
    | some boundary' =>
      have hold' : boundary'.old = condition.digits := by simpa using List.find?_some hfind
      rw [h boundary hmem boundary' (List.mem_of_find?_eq_some hfind) (hold.trans hold'.symm)]

/-- The order of boundaries that are known by their old sides does not matter. -/
theorem retarget_congr_of_mem_iff {boundaries boundaries' : List Boundary}
    (h : ∀ b ∈ boundaries, ∀ b' ∈ boundaries, b.old = b'.old → b = b')
    (hmem : ∀ b, b ∈ boundaries ↔ b ∈ boundaries') (css : List Char) :
    retarget boundaries css = retarget boundaries' css := by
  refine retarget_congr fun _ condition _ _ ↦ Option.ext fun boundary ↦ ?_
  rw [Condition.boundary?_eq_some_iff h, Condition.boundary?_eq_some_iff, hmem]
  exact fun b hb b' hb' ↦ h b ((hmem b).mpr hb) b' ((hmem b').mpr hb')

theorem eq_of_old_eq_of_mem_movingBoundaries {css : List Char} {r : Resolved} :
    ∀ b ∈ movingBoundaries css r, ∀ b' ∈ movingBoundaries css r, b.old = b'.old → b = b' :=
  fun _ hb _ hb' ↦
    (mem_movingBoundaries_iff.mp hb).2.eq_of_old_eq (mem_movingBoundaries_iff.mp hb').2

theorem boundary?_movingBoundaries_eq_some_iff {css : List Char} {r : Resolved}
    {condition : Condition} {boundary : Boundary} :
    condition.boundary? (movingBoundaries css r) = some boundary ↔
      r.isBuiltin = false ∧ Active css r boundary ∧ boundary.old = condition.digits := by
  rw [Condition.boundary?_eq_some_iff eq_of_old_eq_of_mem_movingBoundaries,
    mem_movingBoundaries_iff, and_assoc]

/-! ### The adjusted text -/

theorem adjust?_eq_retarget? (css : List Char) (r : Resolved) :
    adjust? css r = retarget? (movingBoundaries css r) css := by
  have hnil : retarget? [] css = none := by
    have hsame : changesQuery [] css = false := by simp [changesQuery, substitute_nil]
    unfold retarget?
    rw [Pass.run_eq, hsame]
    rfl
  unfold adjust? movingBoundaries
  split
  · exact hnil.symm
  · cases h : activeBoundaries css r with
    | nil => exact hnil.symm
    | cons boundary boundaries => rfl

theorem adjust_eq_retarget (css : List Char) (r : Resolved) :
    adjust css r = retarget (movingBoundaries css r) css := by
  rw [adjust, adjust?_eq_retarget?, retarget]

theorem adjust_eq_targets (css : List Char) (r : Resolved) :
    adjust css r = targets (partsFrom (movingBoundaries css r) false css) := by
  rw [adjust_eq_retarget, retarget_eq_targets]

/-- No slice that the pass over a text takes is out of range. -/
theorem run_movingBoundaries_eq (css : List Char) (r : Resolved) :
    Pass.run (movingBoundaries css r) css = .ok (adjust? css r) := by
  rw [adjust?_eq_retarget?, retarget?, Pass.run_eq]

theorem movingBoundaries_eq_activeBoundaries {r : Resolved} (hcustom : ∃ t : Tier, t ∈ r.custom)
    (hvalues : r.isBuiltin = false) (css : List Char) :
    movingBoundaries css r = activeBoundaries css r := by
  obtain ⟨t, ht⟩ := hcustom
  simp [movingBoundaries, Resolved.hasCustom_of_mem ht, hvalues]

/-- The adjusted text for a pair with a customized tier and a value that is not the built-in one.
It is made of parts, of which the old text is made as well, each part a character that is copied or
a condition with its replacement. The conditions that are replaced are those behind an `@media` with
no opening brace between whose number is an active boundary. The pass that computes this takes no
slice that is out of range. Conditions do not reach into one another, nor into an `@media` or over a
brace, so that no other reading of the text is possible. -/
theorem adjust_moves_exactly_candidates (css : List Char) (r : Resolved)
    (hcustom : ∃ t : Tier, t ∈ r.custom) (hvalues : r.values ≠ Breakpoints.builtin) :
    (∃ parts : List Part, sources parts = css ∧ targets parts = adjust css r ∧
      ∀ before condition boundary,
        (∃ lead rest, parts = lead ++ moved condition boundary :: rest ∧ sources lead = before) ↔
          Candidate css before condition ∧ EndsInQuery before ∧ Active css r boundary ∧
            boundary.old = condition.digits) ∧
    Pass.run (activeBoundaries css r) css = .ok (adjust? css r) ∧
    ∀ before condition, Candidate css before condition →
      (∀ before' condition', Candidate css before' condition' →
        before = before' ∧ condition = condition' ∨ before ++ condition.text <+: before' ∨
          before' ++ condition'.text <+: before) ∧
      ∀ lead, ∀ word ∈ [mediaWord, ['\x7b']], lead ++ word <+: css →
        before ++ condition.text <+: lead ∨ lead ++ word <+: before := by
  have hvalues' : r.isBuiltin = false := by
    rw [Resolved.isBuiltin, Bool.eq_false_iff]
    exact mt Breakpoints.isBuiltin_iff.mp hvalues
  have hboundaries := movingBoundaries_eq_activeBoundaries hcustom hvalues' css
  refine ⟨⟨partsFrom (movingBoundaries css r) false css, sources_partsFrom _ _ _, ?_, ?_⟩, ?_, ?_⟩
  · rw [adjust_eq_targets]
  · intro before condition boundary
    rw [exists_moved_iff, boundary?_movingBoundaries_eq_some_iff]
    simp [hvalues']
  · rw [← hboundaries]
    exact run_movingBoundaries_eq css r
  · intro before condition hcandidate
    refine ⟨fun before' condition' hcandidate' ↦ hcandidate.apart hcandidate', ?_⟩
    intro lead word hword hlead
    simp only [List.mem_cons, List.not_mem_nil, or_false] at hword
    rcases hword with rfl | rfl
    · exact hcandidate.apart_of_isFence (by decide) (by decide) (by decide) hlead
    · exact hcandidate.apart_of_isFence (by decide) (by decide) (by decide) hlead

/-- With a tablet width of 1200 the condition behind `@media (` is one that moves. -/
theorem adjust_moves_condition_of_tablet :
    ∃ parts lead rest, sources parts = "@media (width: 1024px)\x7b\x7d".toList ∧
      targets parts = adjust "@media (width: 1024px)\x7b\x7d".toList
        ⟨⟨"1200", "768"⟩, .single .tablet⟩ ∧
      parts = lead ++ moved ⟨[' '], "1024".toList⟩ ⟨"1024".toList, "1200".toList⟩ :: rest ∧
      sources lead = "@media (".toList := by
  obtain ⟨⟨parts, hsources, htargets, hmoved⟩, -, -⟩ :=
    adjust_moves_exactly_candidates "@media (width: 1024px)\x7b\x7d".toList
      ⟨⟨"1200", "768"⟩, .single .tablet⟩ ⟨.tablet, by decide⟩ (by decide)
  have hcandidate : Candidate "@media (width: 1024px)\x7b\x7d".toList "@media (".toList
      ⟨[' '], "1024".toList⟩ :=
    ⟨⟨List.all_eq_true.mp (by decide), by decide, List.all_eq_true.mp (by decide)⟩, by decide⟩
  obtain ⟨lead, rest, hparts, hlead⟩ :=
    (hmoved _ _ ⟨"1024".toList, "1200".toList⟩).mpr
      ⟨hcandidate, ⟨[], " (".toList, by decide, by decide⟩,
        .upper .tablet (by decide) (by decide) ⟨[' '], .inr rfl, by decide⟩, rfl⟩
  exact ⟨parts, lead, rest, hsources, htargets, hparts, hlead⟩

end Responsive.Media

import Mathlib.Logic.Function.Iterate
import Responsive.Proofs.FilterChain
import Responsive.Proofs.Media.Mention
import Responsive.Proofs.Media.Placeholder

/-!
# Filtering twice

A text that was filtered may be filtered again. For a pair whose customized values are numbers this
changes nothing just if no boundary leads to the old side of a different one.

That a second pass finds nothing to do rests on what the new text holds. A number that is put in
makes up no `@media`, no brace and no placeholder, so each query is where it was
(`endsInQuery_of_targets`), and a condition of the new text is either one that was put in or an old
one that was left alone (`put_in_or_copied_of_targets`). A boundary that is mentioned in the new
text only because a number was put in is the one that leads to this number
(`active_of_mentioned_adjust`).
Conversely, if a boundary feeds another one, two spaces after a colon hide the second boundary from
the first pass and not from the next.

* `adjust_adjust`: the adjustment of an adjusted text.
* `expand_adjust_expand`: the expansion of a filtered text.
* `filter_twice_eq_iff`: when a filtered text may be filtered again.
-/

set_option autoImplicit false
set_option relaxedAutoImplicit false

namespace Responsive.Media

open Text Media.Part

/-! ### The table of a pair -/

/-- All boundaries of a pair, mentioned or not: of each customized tier with a value, the built-in
width to the value, and the width below it to the value less one, if the value is in range. -/
def table (r : Resolved) : List Boundary :=
  Tier.all.flatMap fun t ↦
    if t ∈ r.custom ∧ r.get t ≠ "" then
      ⟨decimalNat t.builtinWidth, (r.get t).toList⟩ ::
        if digitsValue (r.get t).toList < widthLimit then
          [⟨decimalNat (t.builtinWidth - 1), decimal (digitsValue (r.get t).toList - 1 : Int)⟩]
        else []
    else []

/-- No boundary of the table leads to the old side of a different one. -/
def Unchained (r : Resolved) : Prop :=
  ∀ b ∈ table r, ∀ b' ∈ table r, b.new = b'.old → b' = b

instance (r : Resolved) : Decidable (Unchained r) :=
  inferInstanceAs (Decidable (∀ b ∈ table r, ∀ b' ∈ table r, b.new = b'.old → b' = b))

/-- The customized values are numbers or empty. -/
def NumericValues (r : Resolved) : Prop :=
  ∀ t ∈ r.custom, ∀ c ∈ (r.get t).toList, c.isDigit = true

instance (r : Resolved) : Decidable (NumericValues r) :=
  decidable_of_iff (∀ t ∈ Tier.all, t ∈ r.custom → (r.get t).toList.all Char.isDigit = true)
    ⟨fun h t hcustom ↦ List.all_eq_true.mp (h t t.mem_all hcustom),
      fun h t _ hcustom ↦ List.all_eq_true.mpr (h t hcustom)⟩

theorem mem_table_iff {r : Resolved} {b : Boundary} :
    b ∈ table r ↔ ∃ t : Tier, t ∈ r.custom ∧ r.get t ≠ "" ∧
      (b = ⟨decimalNat t.builtinWidth, (r.get t).toList⟩ ∨
        digitsValue (r.get t).toList < widthLimit ∧
          b = ⟨decimalNat (t.builtinWidth - 1),
            decimal (digitsValue (r.get t).toList - 1 : Int)⟩) := by
  rw [table, Tier.mem_flatMap_all_iff]
  refine exists_congr fun t ↦ ?_
  rw [List.mem_cons, and_assoc]
  split
  next hlt => rw [List.mem_singleton, and_iff_right hlt]
  next hlt => simp only [hlt, List.not_mem_nil, false_and]

/-- The integer that a number begins with is the number. -/
theorem beginsWithInteger_iff {value : List Char} {n : Nat}
    (hvalue : ∀ c ∈ value, c.isDigit = true) (hne : value ≠ []) :
    BeginsWithInteger value n ↔ n = digitsValue value ∧ digitsValue value < widthLimit := by
  have htrim : trim value = value :=
    trim_eq_self fun c hc ↦ isBlank_eq_false_of_isDigit (hvalue c hc)
  constructor
  · rintro ⟨digits, rest, hsplit, -, -, hrest, rfl, hlt⟩
    rw [htrim] at hsplit
    obtain rfl : rest = [] := by
      rw [List.eq_nil_iff_forall_not_mem]
      cases rest with
      | nil => simp
      | cons c rest =>
        have hdigit := hvalue c (by simp [hsplit])
        rw [hrest c rfl] at hdigit
        contradiction
    rw [List.append_nil] at hsplit
    rw [hsplit]
    exact ⟨rfl, hlt⟩
  · rintro ⟨rfl, hlt⟩
    exact ⟨value, [], by simpa using htrim, hne, hvalue, by simp, rfl, hlt⟩

/-- The boundaries on offer are those of the table. -/
theorem offered_iff_mem_table {r : Resolved} {b : Boundary} (hnumeric : NumericValues r) :
    Offered r b ↔ b ∈ table r := by
  have hne {t : Tier} (hset : r.get t ≠ "") : (r.get t).toList ≠ [] := by
    simpa using hset
  rw [mem_table_iff]
  constructor
  · intro h
    cases h with
    | upper t custom set => exact ⟨t, custom, set, .inl rfl⟩
    | lower t custom set n integer =>
      obtain ⟨rfl, hlt⟩ := (beginsWithInteger_iff (hnumeric t custom) (hne set)).mp integer
      exact ⟨t, custom, set, .inr ⟨hlt, rfl⟩⟩
  · rintro ⟨t, hcustom, hset, rfl | ⟨hlt, rfl⟩⟩
    · exact .upper t hcustom hset
    · exact .lower t hcustom hset _
        ((beginsWithInteger_iff (hnumeric t hcustom) (hne hset)).mpr ⟨rfl, hlt⟩)

/-- The active boundaries are those of the table that the text mentions. -/
theorem active_iff_mem_table {css : List Char} {r : Resolved} {b : Boundary}
    (hnumeric : NumericValues r) : Active css r b ↔ b ∈ table r ∧ Mentioned css b.old := by
  rw [active_iff_offered, offered_iff_mem_table hnumeric]

/-! ### Numbers that are put in -/

/-- The new side of a boundary is a run of digits, or minus one. -/
def Boundary.Numeric (b : Boundary) : Prop :=
  b.new = ['-', '1'] ∨ b.new ≠ [] ∧ ∀ c ∈ b.new, c.isDigit = true

theorem Offered.numeric {r : Resolved} {b : Boundary} (hnumeric : NumericValues r)
    (h : Offered r b) : b.Numeric := by
  cases h with
  | upper t custom set => exact .inr ⟨by simpa using set, hnumeric t custom⟩
  | lower t custom set n => exact decimal_sub_one_eq n

theorem numeric_of_mem_table {r : Resolved} {b : Boundary} (hnumeric : NumericValues r)
    (hb : b ∈ table r) : b.Numeric :=
  ((offered_iff_mem_table hnumeric).mpr hb).numeric hnumeric

/-- A replacement holds no fence but the one that it begins with, and the minus sign. -/
theorem Boundary.Numeric.not_mem_tail {b : Boundary} (hb : b.Numeric) {c : Char}
    (hc : isFence c = true) (hminus : c ≠ '-') : c ∉ b.replacement.tail := by
  intro hmem
  have hparts : c ∈ widthWord.tail ∨ c ∈ b.new ∨ c ∈ unitWord := by
    simpa [Boundary.replacement, widthWord, or_assoc] using hmem
  rcases hparts with hword | hnew | hunit
  · simp_all [isFence]
  · rcases hb with hnew' | ⟨-, hdigits⟩
    · rw [hnew'] at hnew
      simp only [List.mem_cons, List.not_mem_nil, or_false] at hnew
      rcases hnew with rfl | rfl
      · exact hminus rfl
      · contradiction
    · simp [isFence, isDecimalDigit_of_isDigit (hdigits c hnew)] at hc
  · simp_all [isFence]

/-- A condition that is read off a replacement is the replacement. -/
theorem Boundary.Numeric.eq_of_replacement_append {b : Boundary} (hb : b.Numeric)
    {condition : Condition} (hwell : condition.WellFormed) {s s' : List Char}
    (h : b.replacement ++ s = condition.text ++ s') : condition = ⟨[], b.new⟩ := by
  rcases hb with hnew | ⟨hne, hdigits⟩
  · -- Behind the colon there is a minus sign, which is no blank and no digit.
    obtain ⟨d, digits, hd⟩ := List.exists_cons_of_ne_nil hwell.digits_ne_nil
    have hhead : '-' ∈ condition.gap ++ condition.digits := by
      rw [Boundary.replacement, Condition.text] at h
      simp only [List.append_assoc, List.append_cancel_left_eq, hnew] at h
      cases hgap : condition.gap with
      | nil =>
        rw [hgap, hd] at h
        rw [hd, (List.cons.inj h).1]
        simp
      | cons x gap =>
        rw [hgap] at h
        rw [(List.cons.inj h).1]
        simp
    rcases List.mem_append.mp hhead with hgap | hdigits
    · exact absurd (hwell.isBlank_of_mem _ hgap) (by decide)
    · exact absurd (hwell.isDecimalDigit_of_mem _ hdigits) (by decide)
  · have hwell' : (Condition.mk [] b.new).WellFormed :=
      ⟨by simp, hne, fun c hc ↦ isDecimalDigit_of_isDigit (hdigits c hc)⟩
    have htext : b.replacement = (Condition.mk [] b.new).text := by
      simp [Boundary.replacement, Condition.text]
    have hread := Condition.read?_text_append hwell s'
    rw [← h, htext, Condition.read?_text_append hwell'] at hread
    exact (Prod.mk.inj (Option.some.inj hread)).1.symm

/-! ### Occurrences in the new text -/

section Occurrence

variable {parts : List Part}
  (hparts : ∀ condition boundary, moved condition boundary ∈ parts → boundary.Numeric)
include hparts

/-- A word that begins with a fence of its own kind and holds no other one is made of copied
characters. -/
theorem exists_copied_of_targets (c : Char) (word : List Char) {x y : List Char}
    (hc : isFence c = true)
    (hminus : c ≠ '-') (hne : c ≠ 'w') (hword : 'w' ∉ word)
    (h : targets parts = x ++ (c :: word ++ y)) :
    ∃ lead rest, parts = lead ++ ((c :: word).map copied ++ rest) ∧ targets lead = x ∧
      targets rest = y := by
  have hlocated := located_of_targets_eq hword
    (fun condition boundary hmem ↦ (hparts condition boundary hmem).not_mem_tail hc hminus) h
  cases hlocated with
  | atReplacement lead rest condition boundary _ _ hrest =>
    exact absurd (List.cons.inj hrest).1 (Ne.symm hne)
  | inCopied lead rest hsplit hlead hrest => exact ⟨lead, rest, hsplit, hlead, hrest⟩

/-- A condition is one that was put in, or it is made of copied characters. -/
theorem put_in_or_copied_of_targets {condition : Condition} (hwell : condition.WellFormed)
    {x y : List Char} (h : targets parts = x ++ (condition.text ++ y)) :
    (∃ lead rest condition' boundary, parts = lead ++ moved condition' boundary :: rest ∧
        targets lead = x ∧ condition = ⟨[], boundary.new⟩) ∨
      ∃ lead rest, parts = lead ++ (condition.text.map copied ++ rest) ∧ targets lead = x ∧
        targets rest = y := by
  have hfirst : 'w' ∉ widthWord.tail ++ condition.gap ++ condition.digits ++ unitWord := by
    intro hmem
    have hfence := Condition.isFence_eq_false_of_mem_tail hwell hmem
    contradiction
  have hlocated := located_of_targets_eq hfirst
    (fun condition boundary hmem ↦
      (hparts condition boundary hmem).not_mem_tail (c := 'w') (by decide) (by decide)) h
  cases hlocated with
  | atReplacement lead rest condition' boundary hsplit hlead hrest =>
    have hmem : moved condition' boundary ∈ parts := by simp [hsplit]
    exact .inl ⟨lead, rest, condition', boundary, hsplit, hlead,
      (hparts condition' boundary hmem).eq_of_replacement_append hwell hrest⟩
  | inCopied lead rest hsplit hlead hrest => exact .inr ⟨lead, rest, hsplit, hlead, hrest⟩

/-- A number that the new text mentions was put in, or the old text mentions it. -/
theorem mentioned_of_targets {digits : List Char} (hwell : (Condition.mk [] digits).WellFormed)
    (h : Mentioned (targets parts) digits) :
    (∃ condition boundary, moved condition boundary ∈ parts ∧ boundary.new = digits) ∨
      Mentioned (sources parts) digits := by
  obtain ⟨gap, hgap, x, y, hxy⟩ := h
  rw [List.append_assoc, List.append_assoc] at hxy
  rcases put_in_or_copied_of_targets hparts (hwell.of_gap hgap) hxy.symm with
    ⟨lead, rest, condition, boundary, rfl, -, hput⟩ | ⟨lead, rest, rfl, -, hrest⟩
  · exact .inl ⟨condition, boundary, by simp, (Condition.mk.inj hput).2.symm⟩
  · obtain ⟨rest, rfl, -⟩ := exists_of_targets_eq_append (by decide) hrest
    refine .inr ⟨gap, hgap, sources lead, sources rest, ?_⟩
    simp only [sources_append, sources_map_copied, List.append_assoc]

/-- If the new text ends inside a query, the old one does. -/
theorem endsInQuery_of_targets (h : EndsInQuery (targets parts))
    (hwell : ∀ condition boundary, moved condition boundary ∈ parts → condition.WellFormed) :
    EndsInQuery (sources parts) := by
  obtain ⟨lead, gap, htargets, hgap⟩ := h
  rw [List.append_assoc] at htargets
  obtain ⟨lead', rest, rfl, -, rfl⟩ := exists_copied_of_targets hparts '@' mediaWord.tail
    (by decide) (by decide) (by decide) (by decide) htargets
  refine ⟨sources lead', sources rest, ?_, fun hbrace ↦ hgap ?_⟩
  · change sources (lead' ++ (mediaWord.map copied ++ rest)) = _
    simp
  -- An opening brace of the old text stands in no condition, so it was copied.
  · obtain ⟨p, hp, hbrace⟩ := List.mem_flatMap.mp hbrace
    refine List.mem_flatMap.mpr ⟨p, hp, ?_⟩
    cases p with
    | copied c => exact hbrace
    | moved condition boundary =>
      have hcondition := hwell condition boundary (by simp [hp])
      exact absurd hbrace (Condition.not_mem_text hcondition (by decide) (by decide))

end Occurrence

/-! ### The second pass -/

/-- The old side of a boundary is a number. -/
theorem wellFormed_of_mem_table {r : Resolved} {b : Boundary} (hb : b ∈ table r) {gap : List Char}
    (hgap : ∀ c ∈ gap, isBlank c = true) : (Condition.mk gap b.old).WellFormed := by
  obtain ⟨t, -, -, rfl | ⟨-, rfl⟩⟩ := mem_table_iff.mp hb
  · exact Condition.wellFormed_decimalNat hgap _
  · exact Condition.wellFormed_decimalNat hgap _

section Second

variable {r : Resolved} (hnumeric : NumericValues r)
include hnumeric

/-- What is known of a part that moves in an adjusted text. -/
theorem active_of_moved {css : List Char} {condition : Condition} {boundary : Boundary}
    (h : moved condition boundary ∈ partsFrom (movingBoundaries css r) false css) :
    condition.WellFormed ∧ Active css r boundary ∧ boundary ∈ table r := by
  obtain ⟨hwell, hboundary⟩ := proper_of_mem_partsFrom h
  obtain ⟨-, hactive, -⟩ := boundary?_movingBoundaries_eq_some_iff.mp hboundary
  exact ⟨hwell, hactive, ((active_iff_mem_table hnumeric).mp hactive).1⟩

theorem numeric_of_moved {css : List Char} :
    ∀ condition boundary, moved condition boundary ∈ partsFrom (movingBoundaries css r) false css →
      boundary.Numeric :=
  fun _ _ h ↦ numeric_of_mem_table hnumeric (active_of_moved hnumeric h).2.2

/-- An expanded text that was adjusted holds no placeholder. -/
theorem expand_adjust_expand (css : List Char) :
    expand (adjust (expand css) r) = adjust (expand css) r := by
  refine Draft.expand_eq_self fun t hoccurs ↦ ?_
  obtain ⟨x, y, hxy⟩ := hoccurs
  obtain ⟨word, hword, hw⟩ : ∃ word, t.placeholder.toList = '@' :: word ∧ 'w' ∉ word := by
    cases t <;> exact ⟨_, rfl, by decide⟩
  rw [adjust_eq_targets, List.append_assoc, hword] at hxy
  obtain ⟨lead, rest, hsplit, -, -⟩ := exists_copied_of_targets (numeric_of_moved hnumeric) '@' word
    (by decide) (by decide) (by decide) hw hxy.symm
  refine Draft.not_isInfix_expand css t ⟨sources lead, sources rest, ?_⟩
  rw [← sources_partsFrom (movingBoundaries (expand css) r) false (expand css), hsplit, hword]
  simp only [sources_append, sources_map_copied, List.append_assoc]

/-- A condition in a query is not copied if its boundary is active. -/
theorem not_copied_of_active {css : List Char} (hvalues : r.isBuiltin = false)
    {condition : Condition} {boundary : Boundary} (hwell : condition.WellFormed)
    (hactive : Active css r boundary) (hold : boundary.old = condition.digits)
    {lead rest : List Part} (hinside : EndsInQuery (targets lead)) :
    partsFrom (movingBoundaries css r) false css ≠ lead ++ (condition.text.map copied ++ rest) := by
  intro hsplit
  have hlead : ∀ condition boundary, moved condition boundary ∈ lead →
      condition.WellFormed ∧ boundary.Numeric := by
    intro condition boundary hmem
    have hmoved : moved condition boundary ∈ partsFrom (movingBoundaries css r) false css := by
      simp [hsplit, hmem]
    replace hmoved := active_of_moved hnumeric hmoved
    exact ⟨hmoved.1, numeric_of_mem_table hnumeric hmoved.2.2⟩
  have hinside' : EndsInQuery (sources lead) :=
    endsInQuery_of_targets (fun _ _ hmem ↦ (hlead _ _ hmem).2) hinside
      fun _ _ hmem ↦ (hlead _ _ hmem).1
  have hcss : css = sources lead ++ condition.text ++ sources rest := by
    rw [← sources_partsFrom (movingBoundaries css r) false css, hsplit]
    simp only [sources_append, sources_map_copied, List.append_assoc]
  -- So it moves there, and what moves there cannot be copied.
  obtain ⟨lead', rest', hmoved, hlead'⟩ := exists_moved_iff.mpr
    ⟨⟨hwell, sources rest, hcss.symm⟩, hinside',
      boundary?_movingBoundaries_eq_some_iff.mpr ⟨hvalues, hactive, hold⟩⟩
  have hsecond := (append_inj_of_sources_eq (hsplit.symm.trans hmoved) hlead'.symm).2
  rw [Condition.text_eq_cons] at hsecond
  exact Part.noConfusion (List.cons.inj hsecond).1

variable (hstable : Unchained r)
include hstable

/-- No boundary becomes active by the adjustment. -/
theorem active_of_mentioned_adjust {css : List Char} {boundary : Boundary}
    (htable : boundary ∈ table r) (h : Mentioned (adjust css r) boundary.old) :
    Active css r boundary := by
  rw [adjust_eq_targets] at h
  rcases mentioned_of_targets (numeric_of_moved hnumeric)
    (wellFormed_of_mem_table htable (by simp)) h with ⟨condition, boundary', hmem, hnew⟩ | hold
  · have hmoved := active_of_moved hnumeric hmem
    rw [hstable boundary' hmoved.2.2 boundary htable hnew]
    exact hmoved.2.1
  · rw [sources_partsFrom] at hold
    exact (active_iff_mem_table hnumeric).mpr ⟨htable, hold⟩

/-- A condition that would move in an adjusted text has the text of its replacement already. -/
theorem replacement_eq_text_of_moved {css : List Char} (hvalues : r.isBuiltin = false)
    {condition : Condition} {boundary : Boundary}
    (h : moved condition boundary ∈
      partsFrom (movingBoundaries (adjust css r) r) false (adjust css r)) :
    boundary.replacement = condition.text := by
  obtain ⟨lead, rest, hsplit⟩ := List.append_of_mem h
  obtain ⟨⟨hwell, after, hafter⟩, hinside, hboundary⟩ :=
    exists_moved_iff.mp ⟨lead, rest, hsplit, rfl⟩
  obtain ⟨-, hactive, hold⟩ := boundary?_movingBoundaries_eq_some_iff.mp hboundary
  obtain ⟨htable, hmentioned⟩ := (active_iff_mem_table hnumeric).mp hactive
  rw [adjust_eq_targets css, List.append_assoc] at hafter
  rcases put_in_or_copied_of_targets (numeric_of_moved hnumeric) hwell hafter.symm with
    ⟨lead', rest', condition', boundary', hsplit', -, rfl⟩ | ⟨lead', rest', hsplit', hlead', -⟩
  · -- The condition was put in, by a boundary that leads to the old side of this one.
    have hmoved : moved condition' boundary' ∈ partsFrom (movingBoundaries css r) false css := by
      simp [hsplit']
    replace hmoved := active_of_moved hnumeric hmoved
    rw [hstable boundary' hmoved.2.2 boundary htable hold.symm]
    simp [Boundary.replacement, Condition.text]
  · -- The condition would have been copied, although its boundary was active before.
    have hbefore := active_of_mentioned_adjust hnumeric hstable htable hmentioned
    exact absurd hsplit'
      (not_copied_of_active hnumeric hvalues hwell hbefore hold (hlead' ▸ hinside))

/-- The adjustment of an adjusted text. -/
theorem adjust_adjust (hvalues : r.isBuiltin = false) (css : List Char) :
    adjust (adjust css r) r = adjust css r := by
  rw [adjust_eq_targets (adjust css r)]
  calc targets (partsFrom (movingBoundaries (adjust css r) r) false (adjust css r))
      = sources (partsFrom (movingBoundaries (adjust css r) r) false (adjust css r)) := by
        refine List.flatMap_congr fun p hp ↦ ?_
        cases p with
        | copied c => rfl
        | moved condition boundary =>
          exact replacement_eq_text_of_moved hnumeric hstable hvalues hp
    _ = adjust css r := sources_partsFrom _ _ _

end Second

/-! ### A boundary that feeds another one -/

theorem Condition.WellFormed.separates {condition : Condition} (h : condition.WellFormed)
    {s : List Char} (hs : Fenced s) : Separates condition.text s := by
  intro c hc hmem
  have hfence := Condition.isFence_eq_false_of_mem_tail h hmem
  rw [hs c hc] at hfence
  contradiction

/-- A condition occurs in no condition but itself. -/
theorem Condition.eq_of_text_isInfix {condition condition' : Condition}
    (hwell : condition.WellFormed) (hwell' : condition'.WellFormed)
    (h : condition.text <:+: condition'.text) : condition = condition' := by
  rw [condition'.text_eq_cons, List.infix_cons_iff, ← condition'.text_eq_cons] at h
  rcases h with ⟨rest, hrest⟩ | hoccurs
  · have hread := Condition.read?_text_append hwell' []
    rw [List.append_nil, ← hrest, Condition.read?_text_append hwell] at hread
    exact (Prod.mk.inj (Option.some.inj hread)).1
  · have hmem := hoccurs.subset (condition.text_eq_cons ▸ List.mem_cons_self)
    have hfence := Condition.isFence_eq_false_of_mem_tail hwell' hmem
    contradiction

/-- A query with two conditions, in parentheses. -/
def queryOf (first second : Condition) : List Char :=
  mediaWord ++ (" (".toList ++ (first.text ++ (") and (".toList ++ (second.text ++ [')']))))

section QueryOf

variable {first second : Condition} (hfirst : first.WellFormed) (hsecond : second.WellFormed)
include hfirst hsecond

theorem partsFrom_queryOf (boundaries : List Boundary) :
    partsFrom boundaries false (queryOf first second) =
      (mediaWord ++ " (".toList).map copied ++ first.parts boundaries ++
        (") and (".toList.map copied ++ second.parts boundaries ++ [copied ')']) := by
  have hend : partsFrom boundaries true [')'] = [copied ')'] := by
    simpa [partsFrom, Sheet.read_of_cutAt?_eq_none (s := []) rfl, Sheet.parts] using
      partsFrom_append_of_not_mem (a := [')']) (by decide) (by decide) (by decide) true []
  unfold queryOf
  rw [partsFrom_mediaWord_append,
    partsFrom_append_of_not_mem (by decide) (by decide) (by decide), partsFrom_text_append hfirst,
    partsFrom_append_of_not_mem (by decide) (by decide) (by decide), partsFrom_text_append hsecond,
    hend]
  simp only [List.map_append, List.append_assoc]

/-- The query mentions no number but those of its conditions. -/
theorem eq_of_mentioned_queryOf {gap digits : List Char} (h : (Condition.mk gap digits).WellFormed)
    (hmentioned : (Condition.mk gap digits).text ++ [')'] <:+: queryOf first second) :
    Condition.mk gap digits = first ∨ Condition.mk gap digits = second := by
  have hclosing : Separates (Condition.mk gap digits).text [')'] :=
    h.separates (fenced_cons.mpr (by decide))
  have hbetween (s : List Char) :
      Separates (Condition.mk gap digits).text (") and (".toList ++ s) :=
    h.separates (fenced_cons.mpr (by decide))
  have hne : (Condition.mk gap digits).text ≠ [] := by simp [Condition.text_eq_cons]
  have hskip {a : List Char} (ha : 'w' ∉ a) (s : List Char) :
      (Condition.mk gap digits).text <:+: a ++ s ↔ (Condition.mk gap digits).text <:+: s :=
    isInfix_append_iff_of_not_mem ha s
  replace hmentioned := (List.prefix_append _ _).isInfix.trans hmentioned
  rw [queryOf, hskip (by decide), hskip (by decide), isInfix_append_iff hne (hbetween _),
    hskip (by decide), isInfix_append_iff hne hclosing] at hmentioned
  rcases hmentioned with hoccurs | hoccurs | hoccurs
  · exact .inl (Condition.eq_of_text_isInfix h hfirst hoccurs)
  · exact .inr (Condition.eq_of_text_isInfix h hsecond hoccurs)
  · exact absurd (hoccurs.subset (Condition.text_eq_cons _ ▸ List.mem_cons_self)) (by decide)

theorem expand_queryOf : expand (queryOf first second) = queryOf first second := by
  refine Draft.expand_eq_self fun t hoccurs ↦ ?_
  have hfence {c : Condition} (hc : c.WellFormed) : '@' ∉ c.text :=
    Condition.not_mem_text hc (by decide) (by decide)
  obtain ⟨word, hword⟩ : ∃ word, t.placeholder.toList = '@' :: word := by
    cases t <;> exact ⟨_, rfl⟩
  have htail : '@' ∉ mediaWord.tail ++ (" (".toList ++ (first.text ++ (") and (".toList ++
      (second.text ++ [')'])))) := by
    simp [mediaWord, hfence hfirst, hfence hsecond]
  have hstrip : stripLead? t.placeholder.toList (queryOf first second) = none := by
    cases t <;> rfl
  have hcons : queryOf first second = '@' :: (mediaWord.tail ++ (" (".toList ++ (first.text ++
      (") and (".toList ++ (second.text ++ [')']))))) := rfl
  rw [hcons] at hoccurs hstrip
  rcases List.infix_cons_iff.mp hoccurs with ⟨rest, hrest⟩ | hoccurs
  · rw [stripLead?_eq_some_iff.mpr hrest.symm] at hstrip
    contradiction
  · rw [hword] at hoccurs
    exact htail (hoccurs.subset List.mem_cons_self)

end QueryOf

section Feeding

variable {r : Resolved} (hvalues : r.isBuiltin = false) (hnumeric : NumericValues r)
  {b b' : Boundary} (hb : b ∈ table r) (hb' : b' ∈ table r)

/-- The second condition of the queries below: behind two spaces no number is looked for. -/
def spacedCondition (b : Boundary) : Condition where
  gap := [' ', ' ']
  digits := b.old

theorem wellFormed_plain (hb : b ∈ table r) : (Condition.mk [] b.old).WellFormed :=
  wellFormed_of_mem_table hb (by simp)

theorem wellFormed_spacedCondition (hb : b ∈ table r) : (spacedCondition b).WellFormed := by
  have hblank : ∀ c ∈ [' ', ' '], isBlank c = true := List.all_eq_true.mp (by decide)
  exact wellFormed_of_mem_table hb hblank

include hnumeric

/-- A boundary of the table is known by its old side. -/
theorem eq_of_old_eq_of_mem_table (hb : b ∈ table r) (hb' : b' ∈ table r) (h : b.old = b'.old) :
    b = b' :=
  ((offered_iff_mem_table hnumeric).mpr hb).eq_of_old_eq
    ((offered_iff_mem_table hnumeric).mpr hb') h

theorem active_queryOf (hb : b ∈ table r) (second : Condition) :
    Active (queryOf ⟨[], b.old⟩ second) r b :=
  (active_iff_mem_table hnumeric).mpr ⟨hb, [], .inl rfl, mediaWord ++ " (".toList,
    " and (".toList ++ (second.text ++ [')']), by simp [queryOf]⟩

include hb hb'

theorem not_active_queryOf (hne : b' ≠ b) :
    ¬ Active (queryOf ⟨[], b.old⟩ (spacedCondition b')) r b' := by
  intro h
  obtain ⟨-, gap, hgap, hoccurs⟩ := (active_iff_mem_table hnumeric).mp h
  have hwell : (Condition.mk gap b'.old).WellFormed := (wellFormed_plain hb').of_gap hgap
  rcases eq_of_mentioned_queryOf (wellFormed_plain hb) (wellFormed_spacedCondition hb') hwell
    hoccurs with heq | heq
  · exact hne (eq_of_old_eq_of_mem_table hnumeric hb' hb (Condition.mk.inj heq).2)
  · rcases hgap with rfl | rfl <;> simp [spacedCondition] at heq

include hvalues

/-- The first pass moves the first condition and leaves the second one, whose boundary is not
active. -/
theorem adjust_queryOf (hfeeds : b.new = b'.old) (hne : b' ≠ b) :
    adjust (queryOf ⟨[], b.old⟩ (spacedCondition b')) r =
      queryOf ⟨[], b'.old⟩ (spacedCondition b') := by
  have hmoved := boundary?_movingBoundaries_eq_some_iff.mpr
    (⟨hvalues, active_queryOf hnumeric hb (spacedCondition b'), rfl⟩ :
      _ ∧ _ ∧ b.old = (Condition.mk [] b.old).digits)
  have hcopied : (spacedCondition b').boundary?
      (movingBoundaries (queryOf ⟨[], b.old⟩ (spacedCondition b')) r) = none := by
    rw [Option.eq_none_iff_forall_ne_some]
    intro b'' h
    obtain ⟨-, hactive, hold⟩ := boundary?_movingBoundaries_eq_some_iff.mp h
    have htable := ((active_iff_mem_table hnumeric).mp hactive).1
    rw [eq_of_old_eq_of_mem_table hnumeric htable hb' hold] at hactive
    exact not_active_queryOf hnumeric hb hb' hne hactive
  rw [adjust_eq_targets,
    partsFrom_queryOf (wellFormed_plain hb) (wellFormed_spacedCondition hb'), Condition.parts,
    hmoved, Condition.parts, hcopied]
  simp [target, Boundary.replacement, queryOf, Condition.text, hfeeds]

omit hb

/-- The second pass moves both. -/
theorem adjust_queryOf_ne :
    adjust (queryOf ⟨[], b'.old⟩ (spacedCondition b')) r ≠
      queryOf ⟨[], b'.old⟩ (spacedCondition b') := by
  intro h
  have hmoved := boundary?_movingBoundaries_eq_some_iff.mpr
    (⟨hvalues, active_queryOf hnumeric hb' (spacedCondition b'), rfl⟩ :
      _ ∧ _ ∧ b'.old = (spacedCondition b').digits)
  have hmem : moved (spacedCondition b') b' ∈
      partsFrom (movingBoundaries (queryOf ⟨[], b'.old⟩ (spacedCondition b')) r) false
        (queryOf ⟨[], b'.old⟩ (spacedCondition b')) := by
    rw [partsFrom_queryOf (wellFormed_plain hb') (wellFormed_spacedCondition hb'),
      Condition.parts, Condition.parts, hmoved]
    simp
  have hsame := target_eq_source_of_targets_eq (fun p hp ↦ proper_of_mem_partsFrom hp)
    (by rw [← adjust_eq_targets, h, sources_partsFrom]) _ hmem
  have hsecond := (numeric_of_mem_table hnumeric hb').eq_of_replacement_append
    (wellFormed_spacedCondition hb') (congrArg (· ++ []) hsame)
  simp [spacedCondition] at hsecond

/-- A boundary that leads to the old side of another one changes some text once more. Behind two
spaces that old side is not looked for by the first pass, which puts it in elsewhere. -/
theorem exists_filter_twice_ne (hb : b ∈ table r) (hfeeds : b.new = b'.old) (hne : b' ≠ b) :
    ∃ css, adjust (expand (adjust (expand css) r)) r ≠ adjust (expand css) r := by
  refine ⟨queryOf ⟨[], b.old⟩ (spacedCondition b'), fun h ↦ ?_⟩
  have hspaced := wellFormed_spacedCondition hb'
  rw [expand_queryOf (wellFormed_plain hb) hspaced,
    adjust_queryOf hvalues hnumeric hb hb' hfeeds hne,
    expand_queryOf (wellFormed_plain hb') hspaced] at h
  exact adjust_queryOf_ne hvalues hnumeric hb' h

end Feeding

/-! ### Filtering -/

/-- The chain to which the two standard filters were added any number of times. -/
theorem filters_iterate_addStandard (k : Nat) :
    (CssFilter.addStandard^[k] ∅).filters =
      List.replicate k CssFilter.expandFilter ++ List.replicate k CssFilter.adjustFilter := by
  induction k with
  | zero => rfl
  | succ k ih =>
    rw [Function.iterate_succ_apply', CssFilter.addStandard]
    have hexpand := FilterChain.filters_add_of_append (f := CssFilter.expandFilter) ih
      (fun g hg ↦ Int.le_of_eq (congrArg Filter.priority (List.eq_of_mem_replicate hg)))
      (fun g hg ↦ by rw [List.eq_of_mem_replicate hg]; decide)
    rw [← List.append_nil (_ ++ _ :: _)] at hexpand
    have hadjust := FilterChain.filters_add_of_append (f := CssFilter.adjustFilter) hexpand
      (fun g hg ↦ ?_) (by simp)
    · rw [hadjust, List.replicate_succ', List.replicate_succ']
      simp
    · simp only [List.mem_append, List.mem_cons, List.mem_replicate] at hg
      rcases hg with ⟨-, rfl⟩ | rfl | ⟨-, rfl⟩ <;> decide

/-- For a pair with numbers as its customized values, other than the built-in pair: a filtered text
may be filtered again just if no boundary of the pair leads to the old side of a different one. Then
the two filters may also be registered any number of times. -/
theorem filter_twice_eq_iff (r : Resolved) (hvalues : r.values ≠ Breakpoints.builtin)
    (hnumeric : NumericValues r) :
    ((∀ css, CssFilter.standard.apply r (CssFilter.standard.apply r css) =
        CssFilter.standard.apply r css) ↔ Unchained r) ∧
      (Unchained r → ∀ k, 1 ≤ k → ∀ css,
        (CssFilter.addStandard^[k] ∅).apply r css = CssFilter.standard.apply r css) := by
  have hvalues' : r.isBuiltin = false := by
    rw [Resolved.isBuiltin, Bool.eq_false_iff]
    exact mt Breakpoints.isBuiltin_iff.mp hvalues
  refine ⟨⟨fun h b hb b' hb' hfeeds ↦ ?_, fun hstable css ↦ ?_⟩, fun hstable k hk css ↦ ?_⟩
  · by_contra hne
    obtain ⟨css, hcss⟩ := exists_filter_twice_ne hvalues' hnumeric hb' hb hfeeds hne
    refine hcss ?_
    have hsame := h (.ofList css)
    simp only [CssFilter.apply_standard, String.toList_ofList] at hsame
    exact String.ofList_injective hsame
  · simp only [CssFilter.apply_standard, String.toList_ofList]
    rw [expand_adjust_expand hnumeric, adjust_adjust hnumeric hstable hvalues']
  · obtain ⟨k, rfl⟩ := Nat.exists_eq_add_of_le' hk
    have hexpand : CssFilter.expandFilter.run r (CssFilter.expandFilter.run r css) =
        CssFilter.expandFilter.run r css := by
      simp [CssFilter.expandFilter, Draft.expand_eq_self (Draft.not_isInfix_expand _)]
    have hadjust (text : String) : CssFilter.adjustFilter.run r
        (CssFilter.adjustFilter.run r text) = CssFilter.adjustFilter.run r text := by
      simp [CssFilter.adjustFilter, adjust_adjust hnumeric hstable hvalues']
    rw [FilterChain.apply, filters_iterate_addStandard, List.foldl_append,
      FilterChain.foldl_replicate_of_run_run hexpand,
      FilterChain.foldl_replicate_of_run_run (hadjust _), CssFilter.apply_standard]
    simp [CssFilter.adjustFilter, CssFilter.expandFilter]

/-- With the widths 1200 and 600 every filtered text may be filtered again. With 1025 for the tablet
some may not, as the width below that is the built-in one. -/
theorem filter_twice_of_numbers :
    (∀ css, CssFilter.standard.apply ⟨⟨"1200", "600"⟩, ⟨true, true, 0⟩⟩
        (CssFilter.standard.apply ⟨⟨"1200", "600"⟩, ⟨true, true, 0⟩⟩ css) =
      CssFilter.standard.apply ⟨⟨"1200", "600"⟩, ⟨true, true, 0⟩⟩ css) ∧
      ∃ css, CssFilter.standard.apply ⟨⟨"1025", "600"⟩, ⟨true, true, 0⟩⟩
          (CssFilter.standard.apply ⟨⟨"1025", "600"⟩, ⟨true, true, 0⟩⟩ css) ≠
        CssFilter.standard.apply ⟨⟨"1025", "600"⟩, ⟨true, true, 0⟩⟩ css := by
  constructor
  · exact (filter_twice_eq_iff _ (by decide) (by decide)).1.mpr (by decide)
  · have h := (filter_twice_eq_iff ⟨⟨"1025", "600"⟩, ⟨true, true, 0⟩⟩ (by decide)
      (by decide)).1
    by_contra hall
    exact absurd (h.mp (not_exists_not.mp hall)) (by decide)

end Responsive.Media

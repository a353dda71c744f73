import Responsive.Proofs.Media.Part

/-!
# The parts of a stylesheet

The rewriting of a stylesheet as a list of parts: in the queries every condition on a boundary is
moved, all else is copied. A text is read either outside of a query or from inside one, and
`insideAfter` says how it leaves the reader. Joined texts are rewritten one after the other when the
second one begins with a fence.

* `partsFrom_append`: the parts of joined texts.
* `insideAfter_false_iff`: a text ends inside a query if it ends with `@media` and no brace after
  it.
* `exists_moved_iff`: the moved parts are the conditions in queries whose number is on a boundary.
-/

set_option autoImplicit false
set_option relaxedAutoImplicit false

namespace Responsive.Media

open Text Media.Part

/-! ### Parts of a query -/

/-- The parts of a condition: it moves, or its characters are copied. -/
def Condition.parts (boundaries : List Boundary) (condition : Condition) : List Part :=
  match condition.boundary? boundaries with
  | some boundary => [moved condition boundary]
  | none => condition.text.map copied

/-- The parts of a query. -/
def queryParts (boundaries : List Boundary) : List Char → List Part
  | [] => []
  | c :: s =>
    match _h : Condition.read? (c :: s) with
    | some (condition, rest) => condition.parts boundaries ++ queryParts boundaries rest
    | none => copied c :: queryParts boundaries s
termination_by s => s.length
decreasing_by
  all_goals first
    | exact Condition.length_lt_of_read?_eq_some _h
    | simp

section Query

variable {boundaries : List Boundary}

@[simp] theorem queryParts_nil : queryParts boundaries [] = [] := by
  simp [queryParts]

theorem queryParts_of_read?_eq_some {s rest : List Char} {condition : Condition}
    (h : Condition.read? s = some (condition, rest)) :
    queryParts boundaries s = condition.parts boundaries ++ queryParts boundaries rest := by
  cases s with
  | nil => simp [Condition.read?, widthWord, stripLead?] at h
  | cons c s =>
    rw [queryParts]
    split <;> simp_all

theorem queryParts_of_read?_eq_none {c : Char} {s : List Char}
    (h : Condition.read? (c :: s) = none) :
    queryParts boundaries (c :: s) = copied c :: queryParts boundaries s := by
  rw [queryParts]
  split <;> simp_all

theorem queryParts_cons_of_ne {c : Char} (hc : c ≠ 'w') (s : List Char) :
    queryParts boundaries (c :: s) = copied c :: queryParts boundaries s :=
  queryParts_of_read?_eq_none (Condition.read?_cons_of_ne hc s)

/-- Characters with which no condition begins are copied. -/
theorem queryParts_append_of_not_mem {a : List Char} (ha : 'w' ∉ a) (s : List Char) :
    queryParts boundaries (a ++ s) = a.map copied ++ queryParts boundaries s := by
  induction a with
  | nil => rfl
  | cons c a ih =>
    simp only [List.mem_cons, not_or] at ha
    rw [List.cons_append, queryParts_cons_of_ne (Ne.symm ha.1), ih ha.2]
    rfl

theorem sources_parts (condition : Condition) :
    sources (condition.parts boundaries) = condition.text := by
  rw [Condition.parts]
  split <;> simp [source]

theorem sources_queryParts (s : List Char) : sources (queryParts boundaries s) = s := by
  fun_induction queryParts boundaries s with
  | case1 => rfl
  | case2 c s condition rest hread ih =>
    rw [sources_append, sources_parts, ih, ← Condition.text_append_of_read?_eq_some hread]
  | case3 c s hread ih => simp [source, ih]

theorem targets_queryParts (s : List Char) :
    targets (queryParts boundaries s) = substitute boundaries s := by
  fun_induction substitute boundaries s with
  | case1 => simp
  | case2 c s condition rest hread boundary hboundary ih =>
    rw [queryParts_of_read?_eq_some hread, targets_append, ih, Condition.parts, hboundary]
    simp [target]
  | case3 c s condition rest hread hboundary ih =>
    rw [queryParts_of_read?_eq_some hread, targets_append, ih, Condition.parts, hboundary]
    simp
  | case4 c s hread ih => simp [queryParts_of_read?_eq_none hread, target, ih]

/-- A query of which every part has its old text is rewritten to itself. -/
theorem substitute_eq_self_of_queryParts {s : List Char}
    (h : ∀ p ∈ queryParts boundaries s, p.target = p.source) : substitute boundaries s = s :=
  calc substitute boundaries s
      = targets (queryParts boundaries s) := (targets_queryParts s).symm
    _ = sources (queryParts boundaries s) := List.flatMap_congr h
    _ = s := sources_queryParts s

theorem proper_of_mem_queryParts {s : List Char} {p : Part}
    (hp : p ∈ queryParts boundaries s) : p.Proper boundaries := by
  fun_induction queryParts boundaries s with
  | case1 => contradiction
  | case2 c s condition rest hread ih =>
    rcases List.mem_append.mp hp with hmem | hmem
    · rw [Condition.parts] at hmem
      split at hmem
      next boundary hboundary =>
        obtain rfl := List.mem_singleton.mp hmem
        exact ⟨Condition.wellFormed_of_read? hread, hboundary⟩
      · exact proper_of_mem_map_copied hmem
    · exact ih hmem
  | case3 c s hread ih =>
    rcases List.mem_cons.mp hp with rfl | hmem
    · trivial
    · exact ih hmem

theorem queryParts_append {s : List Char} (hs : Fenced s) (a : List Char) :
    queryParts boundaries (a ++ s) = queryParts boundaries a ++ queryParts boundaries s := by
  fun_induction queryParts boundaries a with
  | case1 => rfl
  | case2 c a condition rest hread ih =>
    have hread' : Condition.read? (c :: a ++ s) = some (condition, rest ++ s) := by
      rw [Condition.read?_cons_append hs, hread]
      rfl
    rw [queryParts_of_read?_eq_some hread', ih, List.append_assoc]
  | case3 c a hread ih =>
    have hread' : Condition.read? (c :: (a ++ s)) = none := by
      rw [← List.cons_append, Condition.read?_cons_append hs, hread]
      rfl
    rw [List.cons_append, queryParts_of_read?_eq_none hread', ih]
    rfl

end Query

/-! ### Parts of a sheet -/

namespace Sheet

theorem read_of_cutAt?_eq_none {s : List Char} (h : cutAt? mediaWord s = none) :
    read s = plain s := by
  rw [read]
  split <;> simp_all

theorem read_of_cutAt?_eq_some {s lead rest : List Char}
    (h : cutAt? mediaWord s = some (lead, rest)) :
    read s = media lead (rest.takeWhile inQuery) (read (rest.dropWhile inQuery)) := by
  rw [read]
  split <;> simp_all

/-- The parts of all queries, with the characters between them. -/
def parts (boundaries : List Boundary) : Sheet → List Part
  | plain s => s.map copied
  | media lead query rest =>
    (lead ++ mediaWord).map copied ++ (queryParts boundaries query ++ rest.parts boundaries)

/-- Whether the text ends inside a query. -/
def endsInside : Sheet → Bool
  | plain _ => false
  | media _ _ rest => rest.text.isEmpty || rest.endsInside

section Parts

variable {boundaries : List Boundary}

theorem sources_parts (sheet : Sheet) : sources (sheet.parts boundaries) = sheet.text := by
  induction sheet with
  | plain s => simp [parts, text]
  | media lead query rest ih =>
    simp only [parts, text, sources_append, sources_map_copied, sources_queryParts, ih,
      List.append_assoc]

theorem targets_parts (sheet : Sheet) :
    targets (sheet.parts boundaries) = (sheet.mapQueries (substitute boundaries)).text := by
  induction sheet with
  | plain s => simp [parts, text, mapQueries]
  | media lead query rest ih =>
    simp only [parts, text, mapQueries, targets_append, targets_map_copied, targets_queryParts, ih,
      List.append_assoc]

theorem proper_of_mem_parts {sheet : Sheet} {p : Part} (hp : p ∈ sheet.parts boundaries) :
    p.Proper boundaries := by
  induction sheet with
  | plain s => exact proper_of_mem_map_copied hp
  | media lead query rest ih =>
    rcases List.mem_append.mp hp with hlead | hp
    · exact proper_of_mem_map_copied hlead
    · rcases List.mem_append.mp hp with hquery | hrest
      · exact proper_of_mem_queryParts hquery
      · exact ih hrest

end Parts

end Sheet

/-! ### Texts read outside and inside of a query -/

/-- The parts of a text that is read from outside of a query, or from inside one. -/
def partsFrom (boundaries : List Boundary) : Bool → List Char → List Part
  | false, s => (Sheet.read s).parts boundaries
  | true, s =>
    queryParts boundaries (s.takeWhile Sheet.inQuery) ++
      (Sheet.read (s.dropWhile Sheet.inQuery)).parts boundaries

/-- Whether a reader is inside a query behind a text that it enters outside or inside of one. -/
def insideAfter : Bool → List Char → Bool
  | false, s => (Sheet.read s).endsInside
  | true, s =>
    (s.dropWhile Sheet.inQuery).isEmpty || (Sheet.read (s.dropWhile Sheet.inQuery)).endsInside

section From

variable {boundaries : List Boundary}

theorem partsFrom_true (s : List Char) :
    partsFrom boundaries true s =
      queryParts boundaries (s.takeWhile Sheet.inQuery) ++
        partsFrom boundaries false (s.dropWhile Sheet.inQuery) := rfl

theorem insideAfter_true (s : List Char) :
    insideAfter true s =
      ((s.dropWhile Sheet.inQuery).isEmpty || insideAfter false (s.dropWhile Sheet.inQuery)) := rfl

theorem sources_partsFrom (boundaries : List Boundary) (inside : Bool) (s : List Char) :
    sources (partsFrom boundaries inside s) = s := by
  cases inside with
  | false => simp [partsFrom, Sheet.sources_parts]
  | true =>
    rw [partsFrom, sources_append, sources_queryParts, Sheet.sources_parts, Sheet.text_read,
      List.takeWhile_append_dropWhile]

theorem proper_of_mem_partsFrom {inside : Bool} {s : List Char} {p : Part}
    (hp : p ∈ partsFrom boundaries inside s) : p.Proper boundaries := by
  cases inside with
  | false => exact Sheet.proper_of_mem_parts hp
  | true =>
    rcases List.mem_append.mp hp with hquery | hrest
    · exact proper_of_mem_queryParts hquery
    · exact Sheet.proper_of_mem_parts hrest

theorem partsFrom_false_of_cutAt?_eq_none {s : List Char} (h : cutAt? mediaWord s = none) :
    partsFrom boundaries false s = s.map copied := by
  rw [partsFrom, Sheet.read_of_cutAt?_eq_none h, Sheet.parts]

theorem partsFrom_false_of_cutAt?_eq_some {s lead rest : List Char}
    (h : cutAt? mediaWord s = some (lead, rest)) :
    partsFrom boundaries false s =
      (lead ++ mediaWord).map copied ++ partsFrom boundaries true rest := by
  rw [partsFrom, Sheet.read_of_cutAt?_eq_some h, Sheet.parts, partsFrom]

theorem insideAfter_false_of_cutAt?_eq_none {s : List Char} (h : cutAt? mediaWord s = none) :
    insideAfter false s = false := by
  rw [insideAfter, Sheet.read_of_cutAt?_eq_none h, Sheet.endsInside]

theorem insideAfter_false_of_cutAt?_eq_some {s lead rest : List Char}
    (h : cutAt? mediaWord s = some (lead, rest)) :
    insideAfter false s = insideAfter true rest := by
  rw [insideAfter, Sheet.read_of_cutAt?_eq_some h, Sheet.endsInside, insideAfter, Sheet.text_read]

/-- Nothing is inside a query behind an opening brace, whatever was before it. -/
theorem head?_dropWhile_inQuery {s : List Char} :
    ∀ c ∈ (s.dropWhile Sheet.inQuery).head?, c = '\x7b' := by
  intro c hc
  have hnot := List.head?_dropWhile_not Sheet.inQuery s
  rw [hc] at hnot
  simpa [Sheet.inQuery] using hnot

theorem fenced_dropWhile_inQuery (s : List Char) : Fenced (s.dropWhile Sheet.inQuery) := by
  intro c hc
  rw [head?_dropWhile_inQuery c hc]
  decide

/-- Outside of a query a character with which no `@media` begins is copied. -/
theorem partsFrom_false_cons {c : Char} (hc : c ≠ '@') (s : List Char) :
    partsFrom boundaries false (c :: s) = copied c :: partsFrom boundaries false s := by
  have hcut := cutAt?_cons_of_ne mediaWord_ne_nil (by simpa [mediaWord] using Ne.symm hc) s
  cases h : cutAt? mediaWord s with
  | none =>
    rw [h] at hcut
    rw [partsFrom_false_of_cutAt?_eq_none hcut, partsFrom_false_of_cutAt?_eq_none h]
    rfl
  | some cut =>
    rw [h] at hcut
    rw [partsFrom_false_of_cutAt?_eq_some hcut, partsFrom_false_of_cutAt?_eq_some h]
    rfl

theorem partsFrom_false_append {a : List Char} (hat : '@' ∉ a) (s : List Char) :
    partsFrom boundaries false (a ++ s) = a.map copied ++ partsFrom boundaries false s := by
  induction a with
  | nil => rfl
  | cons c a ih =>
    rw [List.mem_cons, not_or] at hat
    rw [List.cons_append, partsFrom_false_cons (Ne.symm hat.1), ih hat.2]
    rfl

/-- Characters of which no `@media`, no brace and no condition begins are copied. -/
theorem partsFrom_append_of_not_mem {a : List Char} (hat : '@' ∉ a) (hbrace : '\x7b' ∉ a)
    (hword : 'w' ∉ a) (inside : Bool) (s : List Char) :
    partsFrom boundaries inside (a ++ s) = a.map copied ++ partsFrom boundaries inside s := by
  induction a with
  | nil => rfl
  | cons c a ih =>
    rw [List.mem_cons, not_or] at hat hbrace hword
    rw [List.cons_append, List.map_cons, List.cons_append, ← ih hat.2 hbrace.2 hword.2]
    -- Either way the first text is read up to where the reader next changes sides: outside of a
    -- query up to an `@media`, inside of one up to a brace.
    cases inside with
    | false => exact partsFrom_false_cons (Ne.symm hat.1) _
    | true =>
      have hquery : Sheet.inQuery c = true := by
        simpa [Sheet.inQuery] using Ne.symm hbrace.1
      simp only [partsFrom, List.takeWhile_cons, List.dropWhile_cons, hquery, if_true,
        queryParts_cons_of_ne (Ne.symm hword.1), List.cons_append]

/-- Behind `@media` a text is read from inside of a query. -/
theorem partsFrom_mediaWord_append (inside : Bool) (s : List Char) :
    partsFrom boundaries inside (mediaWord ++ s) =
      mediaWord.map copied ++ partsFrom boundaries true s := by
  cases inside with
  | false =>
    rw [partsFrom_false_of_cutAt?_eq_some (cutAt?_word_append mediaWord_ne_nil s)]
    rfl
  | true =>
    have hquery : ∀ c ∈ mediaWord, Sheet.inQuery c = true := List.all_eq_true.mp (by decide)
    rw [partsFrom_true, List.takeWhile_append_of_pos hquery, List.dropWhile_append_of_pos hquery,
      queryParts_append_of_not_mem (by decide), List.append_assoc, partsFrom_true]

/-- A condition inside a query is one part. -/
theorem partsFrom_text_append {condition : Condition} (hwell : condition.WellFormed)
    (s : List Char) :
    partsFrom boundaries true (condition.text ++ s) =
      condition.parts boundaries ++ partsFrom boundaries true s := by
  have hquery : ∀ c ∈ condition.text, Sheet.inQuery c = true := by
    intro c hc
    have hne : c ≠ '\x7b' := by
      rintro rfl
      exact Condition.not_mem_text hwell (by decide) (by decide) hc
    simpa [Sheet.inQuery] using hne
  rw [partsFrom_true, List.takeWhile_append_of_pos hquery, List.dropWhile_append_of_pos hquery,
    queryParts_of_read?_eq_some (Condition.read?_text_append hwell _), List.append_assoc,
    partsFrom_true]

/-- A condition that stays as it is, outside of a query or inside one. -/
theorem partsFrom_text_append_of_boundary?_eq_none {condition : Condition}
    (hwell : condition.WellFormed) (hboundary : condition.boundary? boundaries = none)
    (inside : Bool) (s : List Char) :
    partsFrom boundaries inside (condition.text ++ s) =
      condition.text.map copied ++ partsFrom boundaries inside s := by
  cases inside with
  | false =>
    exact partsFrom_false_append (Condition.not_mem_text hwell (by decide) (by decide)) s
  | true =>
    rw [partsFrom_text_append hwell, Condition.parts, hboundary]

/-- Behind a text that does not leave its query the next one begins inside of it. -/
theorem partsFrom_true_append_of_dropWhile_eq_nil {a s : List Char} (hs : Fenced s)
    (hdrop : a.dropWhile Sheet.inQuery = []) :
    partsFrom boundaries true (a ++ s) =
      partsFrom boundaries true a ++ partsFrom boundaries true s := by
  have ha : ∀ c ∈ a, Sheet.inQuery c = true := List.dropWhile_eq_nil_iff.mp hdrop
  have hfenced : Fenced (s.takeWhile Sheet.inQuery) := by
    intro c hc
    refine hs c ?_
    cases s with
    | nil => exact hc
    | cons d s => by_cases hd : Sheet.inQuery d = true <;> simp_all
  have hend : partsFrom boundaries false [] = [] := by
    rw [partsFrom_false_of_cutAt?_eq_none rfl, List.map_nil]
  rw [partsFrom_true (a ++ s), partsFrom_true a, partsFrom_true s,
    List.takeWhile_append_of_pos ha, List.dropWhile_append_of_pos ha, queryParts_append hfenced,
    hdrop, List.takeWhile_eq_self_iff.mpr ha, hend, List.append_nil, List.append_assoc]

/-- A brace at which a text leaves its query is found in any text that begins with that one. -/
theorem partsFrom_true_append_of_dropWhile_ne_nil {a : List Char} (s : List Char)
    (hdrop : a.dropWhile Sheet.inQuery ≠ []) :
    partsFrom boundaries true (a ++ s) =
      queryParts boundaries (a.takeWhile Sheet.inQuery) ++
        partsFrom boundaries false (a.dropWhile Sheet.inQuery ++ s) := by
  have hdrop' : (a ++ s).dropWhile Sheet.inQuery = a.dropWhile Sheet.inQuery ++ s := by
    rw [List.dropWhile_append, if_neg (by simpa using hdrop)]
  have htake : (a ++ s).takeWhile Sheet.inQuery = a.takeWhile Sheet.inQuery := by
    have hsplit := List.takeWhile_append_dropWhile (p := Sheet.inQuery) (l := a ++ s)
    rw [hdrop', ← List.append_assoc] at hsplit
    exact List.append_cancel_right
      ((List.append_cancel_right hsplit).trans List.takeWhile_append_dropWhile.symm)
  rw [partsFrom_true, htake, hdrop']

/-- Joined texts are rewritten one after the other if the second one begins with a fence. -/
theorem partsFrom_append {s : List Char} (hs : Fenced s) (inside : Bool) (a : List Char) :
    partsFrom boundaries inside (a ++ s) =
      partsFrom boundaries inside a ++ partsFrom boundaries (insideAfter inside a) s := by
  cases inside with
  | false =>
    have hcut := cutAt?_append mediaWord_ne_nil hs.separates_mediaWord a
    cases h : cutAt? mediaWord a with
    | some cut =>
      rw [h] at hcut
      have hlt := length_lt_of_cutAt?_eq_some mediaWord_ne_nil h
      rw [partsFrom_false_of_cutAt?_eq_some hcut, partsFrom_append hs true cut.2,
        partsFrom_false_of_cutAt?_eq_some h, insideAfter_false_of_cutAt?_eq_some h,
        List.append_assoc]
    | none =>
      rw [h] at hcut
      rw [insideAfter_false_of_cutAt?_eq_none h, partsFrom_false_of_cutAt?_eq_none h]
      cases hs' : cutAt? mediaWord s with
      | none =>
        rw [hs'] at hcut
        rw [partsFrom_false_of_cutAt?_eq_none hcut, partsFrom_false_of_cutAt?_eq_none hs',
          List.map_append]
      | some cut =>
        rw [hs'] at hcut
        rw [partsFrom_false_of_cutAt?_eq_some hcut, partsFrom_false_of_cutAt?_eq_some hs']
        simp
  | true =>
    cases hdrop : a.dropWhile Sheet.inQuery with
    | nil =>
      rw [partsFrom_true_append_of_dropWhile_eq_nil hs hdrop, insideAfter_true, hdrop]
      rfl
    | cons c rest =>
      have hne : a.dropWhile Sheet.inQuery ≠ [] := by simp [hdrop]
      rw [partsFrom_true_append_of_dropWhile_ne_nil s hne,
        partsFrom_append hs false (a.dropWhile Sheet.inQuery), partsFrom_true a, insideAfter_true,
        List.append_assoc, hdrop]
      rfl
termination_by (a.length, inside.toNat)
decreasing_by
  · exact Prod.Lex.left _ _ hlt
  · have hle := (List.dropWhile_suffix Sheet.inQuery (l := a)).length_le
    rcases Nat.lt_or_eq_of_le hle with hlt | heq
    · exact Prod.Lex.left _ _ hlt
    · rw [heq]
      exact Prod.Lex.right _ (by decide)

end From

/-! ### Being inside a query -/

/-- The text ends with an `@media` and characters that are no opening brace. -/
def EndsInQuery (s : List Char) : Prop :=
  ∃ lead gap, s = lead ++ mediaWord ++ gap ∧ '\x7b' ∉ gap

/-- What is before an opening brace does not matter. -/
theorem endsInQuery_append_brace_iff {a s : List Char} :
    EndsInQuery (a ++ '\x7b' :: s) ↔ EndsInQuery ('\x7b' :: s) := by
  constructor
  · rintro ⟨lead, gap, h, hgap⟩
    rw [List.append_assoc, List.append_eq_append_iff] at h
    rcases h with ⟨lead', rfl, h⟩ | ⟨rest, ha, h⟩
    · exact ⟨lead', gap, by simpa using h, hgap⟩
    · have hmem : '\x7b' ∈ mediaWord ++ gap := by
        rw [h]
        simp
      rcases List.mem_append.mp hmem with hword | hmem
      · exact absurd hword (by decide)
      · exact absurd hmem hgap
  · rintro ⟨lead, gap, h, hgap⟩
    exact ⟨a ++ lead, gap, by simp [h], hgap⟩

/-- A reader that enters outside of a query is inside one at the end just if the text ends so. -/
theorem insideAfter_false_iff {s : List Char} : insideAfter false s = true ↔ EndsInQuery s := by
  induction hlength : s.length using Nat.strong_induction_on generalizing s with
  | h length ih =>
    subst hlength
    cases hcut : cutAt? mediaWord s with
    | none =>
      rw [insideAfter_false_of_cutAt?_eq_none hcut]
      refine iff_of_false (by simp) ?_
      rintro ⟨lead, gap, rfl, -⟩
      exact cutAt?_eq_none_iff.mp hcut ⟨lead, gap, rfl⟩
    | some cut =>
      obtain ⟨lead, rest⟩ := cut
      have hlt := length_lt_of_cutAt?_eq_some mediaWord_ne_nil hcut
      have hs := cutAt?_eq_some hcut
      rw [insideAfter_false_of_cutAt?_eq_some hcut, insideAfter]
      -- Behind a brace the text is read from outside again, and it is shorter.
      cases hdrop : rest.dropWhile Sheet.inQuery with
      | nil =>
        refine iff_of_true (by simp) ⟨lead, rest, hs, fun hmem ↦ ?_⟩
        have hbrace := List.dropWhile_eq_nil_iff.mp hdrop _ hmem
        contradiction
      | cons c behind =>
        obtain rfl : c = '\x7b' := head?_dropWhile_inQuery (s := rest) c (by simp [hdrop])
        have hrest : rest = rest.takeWhile Sheet.inQuery ++ '\x7b' :: behind := by
          rw [← hdrop, List.takeWhile_append_dropWhile]
        have hshort : ('\x7b' :: behind).length < s.length := by
          have hle := (List.dropWhile_suffix Sheet.inQuery (l := rest)).length_le
          rw [hdrop] at hle
          omega
        rw [hs, hrest, ← List.append_assoc, endsInQuery_append_brace_iff, ← ih _ hshort rfl]
        simp [insideAfter]

/-! ### Where conditions are moved -/

/-- A width condition stands in the text right behind the beginning `before`. -/
structure Candidate (css before : List Char) (condition : Condition) : Prop where
  wellFormed : condition.WellFormed
  isPrefix : before ++ condition.text <+: css

/-- Of two conditions in a text one ends before the other begins. -/
theorem Candidate.apart {css before before' : List Char} {condition condition' : Condition}
    (h : Candidate css before condition) (h' : Candidate css before' condition') :
    before = before' ∧ condition = condition' ∨ before ++ condition.text <+: before' ∨
      before' ++ condition'.text <+: before := by
  have hfirst : ∀ {c : Condition}, c.WellFormed →
      'w' ∉ widthWord.tail ++ c.gap ++ c.digits ++ unitWord := by
    intro c hc hmem
    have hfence := Condition.isFence_eq_false_of_mem_tail hc hmem
    contradiction
  rcases eq_or_isPrefix_of_isPrefix h.isPrefix h'.isPrefix (hfirst h'.wellFormed)
    (hfirst h.wellFormed) with rfl | hapart
  · obtain ⟨rest, rfl⟩ := h.isPrefix
    obtain ⟨rest', hrest'⟩ := h'.isPrefix
    rw [List.append_assoc, List.append_assoc, List.append_cancel_left_eq] at hrest'
    have hread := Condition.read?_text_append h'.wellFormed rest'
    rw [hrest', Condition.read?_text_append h.wellFormed] at hread
    exact .inl ⟨rfl, (Prod.mk.inj (Option.some.inj hread)).1⟩
  · exact .inr hapart

/-- A condition in a text ends before any word that begins with a fence and has no letter that
begins a condition behind that, or begins after it. -/
theorem Candidate.apart_of_isFence {css before lead word : List Char} {c : Char}
    {condition : Condition} (h : Candidate css before condition) (hc : isFence c = true)
    (hne : c ≠ 'w') (hword : 'w' ∉ word) (hlead : lead ++ c :: word <+: css) :
    before ++ condition.text <+: lead ∨ lead ++ c :: word <+: before := by
  have htail : c ∉ widthWord.tail ++ condition.gap ++ condition.digits ++ unitWord := by
    intro hmem
    have hfence := Condition.isFence_eq_false_of_mem_tail h.wellFormed hmem
    rw [hc] at hfence
    contradiction
  rcases eq_or_isPrefix_of_isPrefix h.isPrefix hlead hword htail with rfl | hapart
  · obtain ⟨rest, rfl⟩ := h.isPrefix
    obtain ⟨rest', hrest'⟩ := hlead
    rw [List.append_assoc, List.append_assoc, List.append_cancel_left_eq,
      Condition.text_eq_cons] at hrest'
    exact absurd (List.cons.inj hrest').1 hne
  · exact hapart

/-- The moved parts are the conditions in queries whose number is on a boundary. -/
theorem exists_moved_iff {boundaries : List Boundary} {css before : List Char}
    {condition : Condition} {boundary : Boundary} :
    (∃ lead rest, partsFrom boundaries false css = lead ++ moved condition boundary :: rest ∧
        sources lead = before) ↔
      Candidate css before condition ∧ EndsInQuery before ∧
        condition.boundary? boundaries = some boundary := by
  have hfenced (s : List Char) : Fenced (condition.text ++ s) := by
    rw [Condition.text_eq_cons, List.cons_append, fenced_cons]
    decide
  constructor
  · rintro ⟨lead, rest, hparts, rfl⟩
    have hmem : moved condition boundary ∈ partsFrom boundaries false css := by simp [hparts]
    obtain ⟨hwell, hboundary⟩ := proper_of_mem_partsFrom hmem
    have hcss : css = sources lead ++ (condition.text ++ sources rest) := by
      rw [← sources_partsFrom boundaries false css, hparts]
      simp [source]
    refine ⟨⟨hwell, sources rest, by simp [hcss]⟩, ?_, hboundary⟩
    rw [← insideAfter_false_iff]
    by_contra houtside
    -- Outside of a query the first letter of the condition would be copied.
    rw [hcss, partsFrom_append (hfenced _), Bool.eq_false_iff.mpr houtside, Condition.text_eq_cons,
      List.cons_append, partsFrom_false_cons (by decide)] at hparts
    have hsecond := (append_inj_of_sources_eq hparts (sources_partsFrom boundaries false _)).2
    exact Part.noConfusion (List.cons.inj hsecond).1
  · rintro ⟨⟨hwell, after, rfl⟩, hinside, hboundary⟩
    refine ⟨partsFrom boundaries false before, partsFrom boundaries true after, ?_,
      sources_partsFrom boundaries false before⟩
    rw [List.append_assoc, partsFrom_append (hfenced _), insideAfter_false_iff.mpr hinside,
      partsFrom_text_append hwell, Condition.parts, hboundary]
    rfl

/-- Two lists of boundaries that agree on the conditions in the queries of a text rewrite it
alike. -/
theorem partsFrom_congr {boundaries boundaries' : List Boundary} {css : List Char}
    (h : ∀ before condition, Candidate css before condition → EndsInQuery before →
      condition.boundary? boundaries = condition.boundary? boundaries') :
    partsFrom boundaries false css = partsFrom boundaries' false css := by
  refine eq_of_moved_iff
    ((sources_partsFrom boundaries false css).trans (sources_partsFrom boundaries' false css).symm)
    fun before condition boundary ↦ ?_
  rw [exists_moved_iff, exists_moved_iff]
  refine and_congr_right fun hcandidate ↦ and_congr_right fun hquery ↦ ?_
  rw [h before condition hcandidate hquery]

end Responsive.Media

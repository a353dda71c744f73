import Mathlib.Data.List.Induction
import Responsive.FilterChain.History
import Responsive.Media.CssFilter

/-!
# Filter chains in order

A chain can be known from its history alone. Its filters are those that were added and whose name
was not removed afterwards, by increasing priority, and in the order of their registration where the
priority is the same. A list is determined by that: by being in order, and by its filters of each
single priority. Both are easy to follow through an insertion, as a filter goes between those of the
same or a lower priority and those of a higher one, and through a removal.

* `filters_add_of_append`, `exists_split`: where a filter goes, and that there is such a place.
* `eq_of_level_eq`: what determines a list of filters.
* `InForce.change`: what one change does to the filters in force.
* `foldl_replicate_of_run_run`: what a filter does that is registered several times.
* `changeAll_runs_by_priority`: the chain after any history, and what surrounds the two filters of
  the standard chain.
-/

set_option autoImplicit false
set_option relaxedAutoImplicit false

namespace Responsive.FilterChain

variable {α γ : Type}

/-! ### Filters in order -/

/-- No filter stands before one of a lower priority. -/
def InOrder (filters : List (Filter α γ)) : Prop :=
  filters.Pairwise (·.priority ≤ ·.priority)

/-- The filters of one priority. -/
def level (p : Int) (filters : List (Filter α γ)) : List (Filter α γ) :=
  filters.filter (·.priority == p)

/-- The filters by increasing priority, and as they come where the priority is the same. -/
def byPriority (filters : List (Filter α γ)) : List (Filter α γ) :=
  filters.mergeSort fun f g ↦ decide (f.priority ≤ g.priority)

section Level

variable {filters filters' : List (Filter α γ)} {f : Filter α γ} {p : Int}

@[simp] theorem level_nil : level p ([] : List (Filter α γ)) = [] := rfl

@[simp] theorem level_append :
    level p (filters ++ filters') = level p filters ++ level p filters' :=
  List.filter_append ..

theorem level_filter (p : Int) (filters : List (Filter α γ)) (q : Filter α γ → Bool) :
    level p (filters.filter q) = (level p filters).filter q := by
  simp only [level, List.filter_filter, Bool.and_comm]

variable (filters p) in
/-- A choice among filters that goes by the priority takes all filters of one priority or none. -/
theorem level_filter_of_forall {q : Filter α γ → Bool} {b : Bool}
    (h : ∀ f : Filter α γ, f.priority = p → q f = b) :
    level p (filters.filter q) = if b then level p filters else [] := by
  have hq : ∀ f ∈ level p filters, q f = b := fun f hf ↦
    h f (by simpa using (List.mem_filter.mp hf).2)
  rw [level_filter]
  cases b with
  | true => exact List.filter_eq_self.mpr hq
  | false => exact List.filter_eq_nil_iff.mpr fun f hf ↦ by simp [hq f hf]

theorem level_cons_of_eq (h : f.priority = p) : level p (f :: filters) = f :: level p filters :=
  List.filter_cons_of_pos (by simpa using h)

theorem level_cons_of_ne (h : f.priority ≠ p) : level p (f :: filters) = level p filters :=
  List.filter_cons_of_neg (by simpa using h)

theorem level_eq_nil (h : ∀ g ∈ filters, g.priority ≠ p) : level p filters = [] :=
  List.filter_eq_nil_iff.mpr fun g hg ↦ by simpa using h g hg

/-- Filters in order are determined by those of each priority. -/
theorem eq_of_level_eq (h : InOrder filters) (h' : InOrder filters')
    (hlevel : ∀ p, level p filters = level p filters') : filters = filters' := by
  have hmem {first second : List (Filter α γ)} (hsame : ∀ p, level p first = level p second)
      {f : Filter α γ} (hf : f ∈ first) : f ∈ second := by
    have hown : f ∈ level f.priority first := List.mem_filter.mpr ⟨hf, beq_self_eq_true _⟩
    rw [hsame] at hown
    exact (List.mem_filter.mp hown).1
  induction filters generalizing filters' with
  | nil =>
    cases filters' with
    | nil => rfl
    | cons g rest =>
      exact absurd (hmem (fun p ↦ (hlevel p).symm) List.mem_cons_self) List.not_mem_nil
  | cons f filters ih =>
    cases filters' with
    | nil => exact absurd (hmem hlevel List.mem_cons_self) List.not_mem_nil
    | cons g filters' =>
      -- Both first filters have the least priority of all.
      have hle : g.priority ≤ f.priority := by
        rcases List.mem_cons.mp (hmem hlevel List.mem_cons_self) with rfl | hf
        · exact Int.le_refl _
        · exact List.rel_of_pairwise_cons h' hf
      have hge : f.priority ≤ g.priority := by
        rcases List.mem_cons.mp (hmem (fun p ↦ (hlevel p).symm) List.mem_cons_self) with rfl | hg
        · exact Int.le_refl _
        · exact List.rel_of_pairwise_cons h hg
      have hfirst := hlevel f.priority
      rw [level_cons_of_eq rfl, level_cons_of_eq (Int.le_antisymm hle hge)] at hfirst
      obtain rfl : f = g := (List.cons.inj hfirst).1
      rw [ih h.of_cons h'.of_cons fun p ↦ ?_]
      have hp := hlevel p
      by_cases hpriority : f.priority = p
      · rw [level_cons_of_eq hpriority, level_cons_of_eq hpriority] at hp
        exact (List.cons.inj hp).2
      · rwa [level_cons_of_ne hpriority, level_cons_of_ne hpriority] at hp

theorem priority_le_trans (f g h : Filter α γ) (hfg : decide (f.priority ≤ g.priority) = true)
    (hgh : decide (g.priority ≤ h.priority) = true) : decide (f.priority ≤ h.priority) = true := by
  simp only [decide_eq_true_eq] at *
  omega

theorem priority_le_total (f g : Filter α γ) :
    (decide (f.priority ≤ g.priority) || decide (g.priority ≤ f.priority)) = true := by
  simp only [Bool.or_eq_true, decide_eq_true_eq]
  omega

theorem inOrder_byPriority (filters : List (Filter α γ)) : InOrder (byPriority filters) := by
  have hsorted := List.pairwise_mergeSort priority_le_trans priority_le_total filters
  exact hsorted.imp fun h ↦ by simpa using h

/-- Sorting leaves the filters of one priority in their order. -/
theorem level_byPriority (p : Int) (filters : List (Filter α γ)) :
    level p (byPriority filters) = level p filters := by
  have hsame : (level p filters).Pairwise fun f g ↦ decide (f.priority ≤ g.priority) = true := by
    refine List.pairwise_of_forall_mem_list fun f hf g hg ↦ ?_
    have hf' := (List.mem_filter.mp hf).2
    have hg' := (List.mem_filter.mp hg).2
    simp only [beq_iff_eq] at hf' hg'
    simp [hf', hg']
  have hsub := List.sublist_mergeSort priority_le_trans priority_le_total hsame
    List.filter_sublist
  have hlevel := hsub.filter (·.priority == p)
  rw [level, List.filter_filter] at hlevel
  simp only [Bool.and_self] at hlevel
  exact (hlevel.eq_of_length ((List.mergeSort_perm filters _).filter _).length_eq.symm).symm

theorem InOrder.append (p : Int) (h : InOrder filters) (h' : InOrder filters')
    (hle : ∀ f ∈ filters, f.priority ≤ p) (hge : ∀ f ∈ filters', p ≤ f.priority) :
    InOrder (filters ++ filters') :=
  List.pairwise_append.mpr ⟨h, h', fun f hf g hg ↦ Int.le_trans (hle f hf) (hge g hg)⟩

/-- What the filters sorted by priority are. -/
theorem eq_byPriority_of_level_eq (h : InOrder filters)
    (hlevel : ∀ p, level p filters = level p filters') : filters = byPriority filters' :=
  eq_of_level_eq h (inOrder_byPriority filters') fun p ↦
    (hlevel p).trans (level_byPriority p filters').symm

end Level

/-! ### Insertion -/

/-- A filter goes between those of the same or a lower priority and those of a higher one. -/
theorem filters_add_of_append {chain : FilterChain α γ} {f : Filter α γ}
    {early late : List (Filter α γ)} (h : chain.filters = early ++ late)
    (hearly : ∀ g ∈ early, g.priority ≤ f.priority) (hlate : ∀ g ∈ late, f.priority < g.priority) :
    (chain.add f).filters = early ++ f :: late := by
  have hpos : ∀ g ∈ early, decide (g.priority ≤ f.priority) = true :=
    fun g hg ↦ decide_eq_true (hearly g hg)
  have htake : late.takeWhile (fun g ↦ decide (g.priority ≤ f.priority)) = [] ∧
      late.dropWhile (fun g ↦ decide (g.priority ≤ f.priority)) = late := by
    cases late with
    | nil => exact ⟨rfl, rfl⟩
    | cons g late =>
      have hneg : ¬ decide (g.priority ≤ f.priority) = true := by
        simpa using hlate g List.mem_cons_self
      exact ⟨List.takeWhile_cons_of_neg hneg, List.dropWhile_cons_of_neg hneg⟩
  simp only [add, h]
  rw [List.takeWhile_append_of_pos hpos, List.dropWhile_append_of_pos hpos, htake.1, htake.2,
    List.append_nil]

/-- Filters in order fall into those up to a priority and those above it. -/
theorem exists_split {filters : List (Filter α γ)} (h : InOrder filters) (p : Int) :
    ∃ early late, filters = early ++ late ∧ (∀ g ∈ early, g.priority ≤ p) ∧
      ∀ g ∈ late, p < g.priority := by
  induction filters with
  | nil => exact ⟨[], [], rfl, nofun, nofun⟩
  | cons f filters ih =>
    by_cases hf : f.priority ≤ p
    · obtain ⟨early, late, rfl, hearly, hlate⟩ := ih h.of_cons
      exact ⟨f :: early, late, rfl, List.forall_mem_cons.mpr ⟨hf, hearly⟩, hlate⟩
    · refine ⟨[], f :: filters, rfl, nofun, fun g hg ↦ ?_⟩
      rcases List.mem_cons.mp hg with rfl | hg
      · omega
      · have hfg := List.rel_of_pairwise_cons h hg
        omega

/-- An insertion keeps the order, and puts the filter behind all others of its priority. -/
theorem inOrder_add {chain : FilterChain α γ} (h : InOrder chain.filters) (f : Filter α γ) :
    InOrder (chain.add f).filters ∧
      ∀ p, level p (chain.add f).filters = level p (chain.filters ++ [f]) := by
  obtain ⟨early, late, hsplit, hearly, hlate⟩ := exists_split h f.priority
  rw [filters_add_of_append hsplit hearly hlate, hsplit]
  rw [hsplit] at h
  obtain ⟨hordered, hordered', hacross⟩ := List.pairwise_append.mp h
  constructor
  · refine List.pairwise_append.mpr ⟨hordered, List.pairwise_cons.mpr
      ⟨fun g hg ↦ Int.le_of_lt (hlate g hg), hordered'⟩, fun g hg g' hg' ↦ ?_⟩
    rcases List.mem_cons.mp hg' with rfl | hg'
    · exact hearly g hg
    · exact hacross g hg g' hg'
  · intro p
    by_cases hp : f.priority = p
    · have hnone : level p late = [] := level_eq_nil fun g hg ↦ by
        have := hlate g hg
        omega
      simp [level_cons_of_eq hp, hnone]
    · simp [level_cons_of_ne hp]

/-! ### Histories -/

namespace Change

/-- Whether a change deletes the filters of a name. -/
def deletes (name : String) : Change α γ → Bool
  | .add _ => false
  | .remove other => other == name

/-- The filters that were added and not deleted afterwards, in the order of their registration. -/
def kept : List (Change α γ) → List (Filter α γ)
  | [] => []
  | .add f :: later => if later.any (deletes f.name) then kept later else f :: kept later
  | .remove _ :: later => kept later

/-- Later changes add filters, and delete some of those that were kept before. -/
theorem kept_append (changes later : List (Change α γ)) :
    kept (changes ++ later) =
      (kept changes).filter (fun f ↦ !later.any (deletes f.name)) ++ kept later := by
  induction changes with
  | nil => rfl
  | cons c changes ih =>
    cases c with
    | add f =>
      rw [List.cons_append, kept, kept, ih, List.any_append]
      cases hdeleted : changes.any (deletes f.name) with
      | true => rfl
      | false => cases hlater : later.any (deletes f.name) <;> simp [hlater]
    | remove name => exact ih

end Change

open Change

/-- The filters of a chain are those that are registered, by increasing priority and in the order of
registration where that is the same. -/
structure InForce (chain : FilterChain α γ) (registered : List (Filter α γ)) : Prop where
  inOrder : InOrder chain.filters
  level : ∀ p, level p chain.filters = level p registered

namespace InForce

variable {chain : FilterChain α γ} {registered : List (Filter α γ)}

theorem filters_eq (h : chain.InForce registered) : chain.filters = byPriority registered :=
  eq_byPriority_of_level_eq h.inOrder h.level

/-- One change of a chain, and of the filters that are registered. -/
theorem change {changes : List (Change α γ)} (h : chain.InForce (kept changes))
    (c : Change α γ) : (chain.change c).2.InForce (kept (changes ++ [c])) := by
  rw [kept_append]
  cases c with
  | add f =>
    obtain ⟨hordered, hlevel⟩ := inOrder_add h.inOrder f
    refine ⟨hordered, fun p ↦ (hlevel p).trans ?_⟩
    have hall : (kept changes).filter (fun g ↦ !([Change.add f].any (deletes g.name))) =
        kept changes := List.filter_eq_self.mpr fun _ _ ↦ rfl
    rw [hall, level_append, level_append, h.level]
    rfl
  | remove name =>
    have hleft : (chain.change (.remove name)).2.filters =
        chain.filters.filter fun f ↦ f.name != name := filters_remove chain name
    have hothers : (kept changes).filter
          (fun f ↦ !([(Change.remove name : Change α γ)].any (deletes f.name))) =
        (kept changes).filter fun f ↦ f.name != name :=
      List.filter_congr fun f _ ↦ by simp [deletes, bne, eq_comm]
    refine ⟨hleft ▸ h.inOrder.filter _, fun p ↦ ?_⟩
    rw [hleft, level_filter, h.level, hothers, kept, kept, List.append_nil, level_filter]

theorem changeAll (changes : List (Change α γ)) :
    (FilterChain.changeAll ∅ changes).InForce (kept changes) := by
  induction changes using List.reverseRecOn with
  | nil => exact ⟨List.Pairwise.nil, fun _ ↦ rfl⟩
  | append_singleton changes c ih =>
    rw [FilterChain.changeAll, List.foldl_append]
    exact ih.change c

end InForce

/-- A removal answers whether there was a filter of that name, and deletes all of them. -/
theorem change_remove (chain : FilterChain α γ) (name : String) :
    ∃ removed, (chain.change (.remove name)).1 = some removed ∧
      (removed = true ↔ ∃ f ∈ chain.filters, f.name = name) ∧
      (chain.change (.remove name)).2.filters = chain.filters.filter (·.name != name) := by
  refine ⟨_, rfl, ?_, rfl⟩
  have hlength : (chain.remove name).size = chain.size ↔ ∀ f ∈ chain.filters, f.name ≠ name := by
    simp only [size, filters_remove, List.length_filter_eq_length_iff, bne_iff_ne]
  rw [bne_iff_ne, ne_comm, Ne, hlength]
  simp

/-! ### Repeated filters -/

/-- A filter that runs several times in a row, if the second run changes nothing. -/
theorem foldl_replicate_of_run_run {f : Filter α γ} {context : γ} {value : α}
    (h : f.run context (f.run context value) = f.run context value) (k : Nat) :
    (List.replicate (k + 1) f).foldl (fun value g ↦ g.run context value) value =
      f.run context value := by
  induction k with
  | zero => rfl
  | succ k ih =>
    rw [List.replicate_succ', List.foldl_append, ih, List.foldl_cons, List.foldl_nil, h]

/-! ### The standard chain -/

section Standard

variable {filters : List (Filter String Resolved)}

/-- Filters and the two of the standard chain, sorted by priority. -/
def aroundStandard (filters : List (Filter String Resolved)) : List (Filter String Resolved) :=
  byPriority (filters.filter (·.priority < 9)) ++
    CssFilter.expandFilter :: filters.filter (·.priority == 9) ++
    CssFilter.adjustFilter :: byPriority (filters.filter (10 ≤ ·.priority))

theorem inOrder_aroundStandard (filters : List (Filter String Resolved)) :
    InOrder (aroundStandard filters) := by
  have hlow : ∀ f ∈ byPriority (filters.filter (·.priority < 9)), f.priority ≤ 9 := fun f hf ↦ by
    have hf' := (List.mem_filter.mp (List.mem_mergeSort.mp hf)).2
    simp only [decide_eq_true_eq] at hf'
    omega
  have hbetween : ∀ f ∈ CssFilter.expandFilter :: filters.filter (·.priority == 9),
      f.priority = 9 :=
    List.forall_mem_cons.mpr ⟨rfl, fun f hf ↦ by simpa using (List.mem_filter.mp hf).2⟩
  have hhigh : ∀ f ∈ byPriority (filters.filter (10 ≤ ·.priority)), 10 ≤ f.priority :=
    fun f hf ↦ by simpa using (List.mem_filter.mp (List.mem_mergeSort.mp hf)).2
  have hupto := InOrder.append 9 (inOrder_byPriority _)
    (List.pairwise_of_forall_mem_list fun f hf g hg ↦
      Int.le_of_eq ((hbetween f hf).trans (hbetween g hg).symm))
    hlow fun f hf ↦ Int.le_of_eq (hbetween f hf).symm
  refine InOrder.append 9 hupto (List.pairwise_cons.mpr ⟨hhigh, inOrder_byPriority _⟩)
    (fun f hf ↦ ?_) (List.forall_mem_cons.mpr ⟨by decide, fun f hf ↦ ?_⟩)
  · exact (List.mem_append.mp hf).elim (hlow f) fun hf ↦ Int.le_of_eq (hbetween f hf)
  · exact Int.le_trans (by decide) (hhigh f hf)

theorem level_aroundStandard (p : Int) (filters : List (Filter String Resolved)) :
    level p (aroundStandard filters) =
      level p (CssFilter.expandFilter :: CssFilter.adjustFilter :: filters) := by
  have hexpand : CssFilter.expandFilter.priority = 9 := rfl
  have hadjust : CssFilter.adjustFilter.priority = 10 := rfl
  have hlow := level_filter_of_forall filters p (q := (·.priority < 9))
    (b := decide (p < 9)) fun f hf ↦ by rw [hf]
  have hbetween := level_filter_of_forall filters p (q := (·.priority == 9))
    (b := decide (p = 9)) fun f hf ↦ by rw [hf]; rfl
  have hhigh := level_filter_of_forall filters p (q := (10 ≤ ·.priority))
    (b := decide (10 ≤ p)) fun f hf ↦ by rw [hf]
  have hcons {f : Filter String Resolved} (rest : List (Filter String Resolved)) :
      level p (f :: rest) = if f.priority = p then f :: level p rest else level p rest := by
    split
    next h => exact level_cons_of_eq h
    next h => exact level_cons_of_ne h
  simp only [aroundStandard, level_append, hcons, level_byPriority, hlow, hbetween, hhigh, hexpand,
    hadjust, decide_eq_true_eq]
  rcases Int.lt_trichotomy p 9 with hp | rfl | hp
  · have hne : (9 : Int) ≠ p ∧ p ≠ 9 ∧ (10 : Int) ≠ p ∧ ¬ 10 ≤ p := by omega
    simp [hp, hne]
  · simp
  · have hne : ¬ p < 9 ∧ (9 : Int) ≠ p ∧ p ≠ 9 ∧ 10 ≤ p := by omega
    simp [hne]

/-- A chain that was built on the standard one without deleting its two filters. -/
theorem filters_changeAll_standard {changes : List (Change String Resolved)}
    (h : ∀ name, .remove name ∈ changes →
      name ≠ CssFilter.expandName ∧ name ≠ CssFilter.adjustName) :
    (changeAll CssFilter.standard changes).filters = aroundStandard (kept changes) := by
  have hany (name : String) (hname : name = CssFilter.expandName ∨ name = CssFilter.adjustName) :
      changes.any (deletes name) = false := by
    refine List.any_eq_false.mpr fun c hc ↦ ?_
    cases c with
    | add f => exact Bool.false_ne_true
    | remove other =>
      obtain ⟨hexpand, hadjust⟩ := h other hc
      rcases hname with rfl | rfl <;> simpa [deletes]
  have hkept : kept (.add CssFilter.expandFilter :: .add CssFilter.adjustFilter :: changes) =
      CssFilter.expandFilter :: CssFilter.adjustFilter :: kept changes := by
    have hexpand : changes.any (deletes CssFilter.expandFilter.name) = false := hany _ (.inl rfl)
    have hadjust : changes.any (deletes CssFilter.adjustFilter.name) = false := hany _ (.inr rfl)
    rw [kept, kept, List.any_cons, hexpand, hadjust]
    rfl
  have hforce := InForce.changeAll
    (.add CssFilter.expandFilter :: .add CssFilter.adjustFilter :: changes)
  rw [hkept] at hforce
  exact eq_of_level_eq hforce.inOrder (inOrder_aroundStandard _) fun p ↦
    (hforce.level p).trans (level_aroundStandard p _).symm

end Standard

/-- Every chain that was begun empty, whatever was added to it and removed from it: its filters are
those that were added and whose name was not removed afterwards, by increasing priority and in the
order of their registration where that is the same; a removal answers whether there is a filter of
that name, and deletes all of them; and a value goes through the filters from left to right, all in
one context. If the standard chain was begun with and its two filters were not deleted, then the
filters below 9 run before both, those at 9 between them, and those at 10 and above after both. -/
theorem changeAll_runs_by_priority :
    (∀ (α γ : Type) (changes : List (Change α γ)),
      (changeAll ∅ changes).filters = byPriority (kept changes) ∧
      (byPriority (kept changes)).Pairwise (·.priority ≤ ·.priority) ∧
      (∀ p, (byPriority (kept changes)).filter (·.priority == p) =
        (kept changes).filter (·.priority == p)) ∧
      (∀ name, ∃ removed, ((changeAll ∅ changes).change (.remove name)).1 = some removed ∧
        (removed = true ↔ ∃ f ∈ kept changes, f.name = name) ∧
        ((changeAll ∅ changes).change (.remove name)).2.filters =
          (byPriority (kept changes)).filter (·.name != name)) ∧
      ∀ context value, (changeAll ∅ changes).apply context value =
        ((byPriority (kept changes)).map (·.run context)).foldl (fun value run ↦ run value) value) ∧
    ∀ changes : List (Change String Resolved),
      (∀ name, .remove name ∈ changes →
        name ≠ CssFilter.expandName ∧ name ≠ CssFilter.adjustName) →
      ∃ below between above,
        (∀ f, f ∈ below ↔ f ∈ kept changes ∧ f.priority < 9) ∧
        (∀ f, f ∈ between ↔ f ∈ kept changes ∧ f.priority = 9) ∧
        (∀ f, f ∈ above ↔ f ∈ kept changes ∧ 10 ≤ f.priority) ∧
        (changeAll CssFilter.standard changes).filters =
          below ++ CssFilter.expandFilter :: between ++ CssFilter.adjustFilter :: above := by
  constructor
  · intro α γ changes
    have hfilters := (InForce.changeAll changes).filters_eq
    refine ⟨hfilters, inOrder_byPriority _, fun p ↦ level_byPriority p _, fun name ↦ ?_,
      fun context value ↦ ?_⟩
    · obtain ⟨removed, hanswer, hremoved, hleft⟩ := change_remove (changeAll ∅ changes) name
      rw [hfilters] at hremoved hleft
      simp only [byPriority, List.mem_mergeSort] at hremoved
      exact ⟨removed, hanswer, hremoved, hleft⟩
    · rw [apply, hfilters, List.foldl_map]
  · intro changes h
    refine ⟨_, _, _, fun f ↦ ?_, fun f ↦ ?_, fun f ↦ ?_, filters_changeAll_standard h⟩
    · rw [byPriority, List.mem_mergeSort, List.mem_filter, decide_eq_true_eq]
    · rw [List.mem_filter, beq_iff_eq]
    · rw [byPriority, List.mem_mergeSort, List.mem_filter, decide_eq_true_eq]

/-- A filter that changes nothing. -/
def idle (priority : Int) (name : String) : Filter String Resolved where
  priority := priority
  name := name
  run _ css := css

/-- Two filters are added to the standard chain, one of them at 9 and one below that, and a third
one is deleted again. -/
theorem changeAll_standard_of_two :
    ∃ below between above, idle 5 "early" ∈ below ∧ idle 9 "print" ∈ between ∧ above = [] ∧
      (changeAll CssFilter.standard
        [.add (idle 12 "late"), .add (idle 9 "print"), .remove "late",
          .add (idle 5 "early")]).filters =
        below ++ CssFilter.expandFilter :: between ++ CssFilter.adjustFilter :: above := by
  obtain ⟨below, between, above, hbelow, hbetween, habove, hfilters⟩ :=
    changeAll_runs_by_priority.2
      [.add (idle 12 "late"), .add (idle 9 "print"), .remove "late", .add (idle 5 "early")]
      fun name hname ↦ by
        obtain rfl : name = "late" := by simpa using hname
        decide
  have hkept : kept [.add (idle 12 "late"), .add (idle 9 "print"), .remove "late",
      .add (idle 5 "early")] = [idle 9 "print", idle 5 "early"] := rfl
  rw [hkept] at hbelow hbetween habove
  have hnone : above = [] := List.eq_nil_iff_forall_not_mem.mpr fun f hf ↦ by
    obtain ⟨hmem, hpriority⟩ := (habove f).mp hf
    simp only [List.mem_cons, List.not_mem_nil, or_false] at hmem
    rcases hmem with rfl | rfl <;> exact absurd hpriority (by decide)
  exact ⟨below, between, above, (hbelow _).mpr ⟨by simp, by decide⟩,
    (hbetween _).mpr ⟨by simp, rfl⟩, hnone, hfilters⟩

end Responsive.FilterChain

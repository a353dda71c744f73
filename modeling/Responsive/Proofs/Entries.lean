import Responsive.Entries

/-!
# Entries in order

The names of a map stand in strictly increasing order, and insertion and erasure keep them so. A map
in order is determined by the values of its names, so a function from names to values has at most
one listing.

* `ordered_insert`, `ordered_erase`, `ordered_ofPairs`: what keeps the order.
* `get?_ofPairs`: what is found of pairs that were collected in any order.
* `ext_get?`: two maps in order with the same values are the same list.
* `mem_names_iff`: the names are those that have a value.
-/

set_option autoImplicit false
set_option relaxedAutoImplicit false

namespace Responsive.Entries

variable {α : Type}

/-- The names are strictly increasing. -/
def Ordered (entries : Entries α) : Prop :=
  entries.Pairwise (·.1 < ·.1)

theorem ordered_nil : Ordered ([] : Entries α) :=
  List.Pairwise.nil

theorem ordered_cons {name : String} {value : α} {rest : Entries α} :
    Ordered ((name, value) :: rest) ↔ (∀ pair ∈ rest, name < pair.1) ∧ Ordered rest :=
  List.pairwise_cons

theorem eq_or_mem_of_mem_insert {name : String} {value : α} {entries : Entries α}
    {pair : String × α} (h : pair ∈ insert name value entries) :
    pair = (name, value) ∨ pair ∈ entries := by
  induction entries with
  | nil => exact .inl (List.mem_singleton.mp h)
  | cons first rest ih =>
    obtain ⟨n, v⟩ := first
    rw [insert] at h
    split at h
    · exact (List.mem_cons.mp h).imp_right (List.mem_cons_of_mem _)
    · split at h
      · exact List.mem_cons.mp h
      · rcases List.mem_cons.mp h with rfl | hrest
        · exact .inr List.mem_cons_self
        · exact (ih hrest).imp_right (List.mem_cons_of_mem _)

theorem ordered_insert (name : String) (value : α) {entries : Entries α} (h : Ordered entries) :
    Ordered (insert name value entries) := by
  induction entries with
  | nil => exact List.pairwise_singleton _ _
  | cons first rest ih =>
    obtain ⟨n, v⟩ := first
    obtain ⟨hbound, hrest⟩ := ordered_cons.mp h
    rw [insert]
    split
    next hn =>
      subst hn
      exact ordered_cons.mpr ⟨hbound, hrest⟩
    next hn =>
      split
      next hlt =>
        refine ordered_cons.mpr ⟨fun pair hpair ↦ ?_, h⟩
        rcases List.mem_cons.mp hpair with rfl | hpair
        · exact hlt
        · exact String.lt_trans hlt (hbound pair hpair)
      next hlt =>
        have hgt : n < name := Std.lt_of_le_of_ne (String.not_lt.mp hlt) (Ne.symm hn)
        refine ordered_cons.mpr ⟨fun pair hpair ↦ ?_, ih hrest⟩
        rcases eq_or_mem_of_mem_insert hpair with rfl | hpair
        · exact hgt
        · exact hbound pair hpair

theorem ordered_erase (name : String) {entries : Entries α} (h : Ordered entries) :
    Ordered (erase name entries) :=
  h.filter _

theorem ordered_ofPairs (pairs : List (String × α)) : Ordered (ofPairs pairs) := by
  have hfold (entries : Entries α) (h : Ordered entries) :
      Ordered (pairs.foldl (fun entries pair ↦ insert pair.1 pair.2 entries) entries) := by
    induction pairs generalizing entries with
    | nil => exact h
    | cons pair pairs ih => exact ih _ (ordered_insert pair.1 pair.2 h)
  exact hfold [] ordered_nil

/-- Of the pairs of one name the last one counts. -/
theorem get?_ofPairs (pairs : List (String × α)) (name : String) :
    get? (ofPairs pairs) name = pairs.reverse.lookup name := by
  have hfold (entries : Entries α) :
      get? (pairs.foldl (fun entries pair ↦ insert pair.1 pair.2 entries) entries) name =
        (pairs.reverse.lookup name).or (get? entries name) := by
    induction pairs generalizing entries with
    | nil => rfl
    | cons pair pairs ih =>
      rw [List.foldl_cons, ih, get?_insert, List.reverse_cons, List.lookup_append, Option.or_assoc,
        List.lookup_cons]
      by_cases h : name = pair.1
      · rw [if_pos h, h, beq_self_eq_true]
        rfl
      · rw [if_neg h, beq_false_of_ne h]
        rfl
  rw [ofPairs, hfold, get?_nil, Option.or_none]

/-- The collected pairs are among those that were to be collected. -/
theorem mem_of_mem_ofPairs {pairs : List (String × α)} {pair : String × α}
    (h : pair ∈ ofPairs pairs) : pair ∈ pairs := by
  have hfold (rest : List (String × α)) (entries : Entries α)
      (hmem : pair ∈ rest.foldl (fun entries pair ↦ insert pair.1 pair.2 entries) entries) :
      pair ∈ rest ∨ pair ∈ entries := by
    induction rest generalizing entries with
    | nil => exact .inr hmem
    | cons first rest ih =>
      rcases ih _ hmem with hrest | hinsert
      · exact .inl (List.mem_cons_of_mem _ hrest)
      · rcases eq_or_mem_of_mem_insert hinsert with rfl | hold
        · exact .inl List.mem_cons_self
        · exact .inr hold
  exact (hfold pairs [] h).resolve_right List.not_mem_nil

/-- A name below all others has no value. -/
theorem get?_eq_none_of_forall_lt {name : String} {entries : Entries α}
    (h : ∀ pair ∈ entries, name < pair.1) : get? entries name = none := by
  refine List.lookup_eq_none_iff.mpr fun pair hpair ↦ ?_
  have hne : name ≠ pair.1 := fun heq ↦ String.lt_irrefl name (heq ▸ h pair hpair)
  simpa using hne

theorem mem_iff_get?_eq_some {entries : Entries α} (h : Ordered entries) {name : String}
    {value : α} : (name, value) ∈ entries ↔ get? entries name = some value := by
  induction entries with
  | nil => simp
  | cons first rest ih =>
    obtain ⟨n, v⟩ := first
    obtain ⟨hbound, hrest⟩ := ordered_cons.mp h
    rw [get?_cons, List.mem_cons, ih hrest, Prod.mk.injEq]
    split
    next hn =>
      subst hn
      rw [get?_eq_none_of_forall_lt hbound]
      simp [eq_comm]
    next hn => simp [hn]

/-- What holds of the new entry and of the old ones of other names holds of all entries. -/
theorem forall_mem_insert {name : String} {value : α} {entries : Entries α} (h : Ordered entries)
    {p : String × α → Prop} (hnew : p (name, value))
    (hold : ∀ pair ∈ entries, pair.1 ≠ name → p pair) :
    ∀ pair ∈ insert name value entries, p pair := by
  rintro ⟨other, v⟩ hpair
  have hget := (mem_iff_get?_eq_some (ordered_insert name value h)).mp hpair
  rw [get?_insert] at hget
  split at hget
  next hname =>
    subst hname
    obtain rfl := Option.some.inj hget
    exact hnew
  next hname => exact hold (other, v) ((mem_iff_get?_eq_some h).mpr hget) hname

theorem mem_names_iff {entries : Entries α} {name : String} :
    name ∈ names entries ↔ (get? entries name).isSome = true := by
  induction entries with
  | nil => simp [names]
  | cons first rest ih =>
    obtain ⟨n, v⟩ := first
    rw [names, List.map_cons, List.mem_cons, get?_cons]
    by_cases hn : name = n
    · simp [hn]
    · rw [if_neg hn, ← ih, or_iff_right hn, names]

/-- The names of a map in order are strictly increasing. -/
theorem pairwise_names {entries : Entries α} (h : Ordered entries) :
    (names entries).Pairwise (· < ·) :=
  List.pairwise_map.mpr h

/-- Two maps in order with the same pairs are the same list. -/
theorem eq_of_mem_iff {a b : Entries α} (ha : Ordered a) (hb : Ordered b)
    (h : ∀ pair, pair ∈ a ↔ pair ∈ b) : a = b := by
  have hnodup {entries : Entries α} (hentries : Ordered entries) : List.Nodup entries := by
    refine List.Pairwise.imp ?_ hentries
    rintro pair _ hlt rfl
    exact String.lt_irrefl pair.1 hlt
  refine List.Perm.eq_of_pairwise (fun _ _ _ _ hlt hlt' ↦ ?_) ha hb
    ((List.perm_ext_iff_of_nodup (hnodup ha) (hnodup hb)).mpr h)
  exact absurd hlt (String.lt_asymm hlt')

/-- Two maps in order that give every name the same value are the same list. -/
theorem ext_get? {a b : Entries α} (ha : Ordered a) (hb : Ordered b)
    (h : ∀ name, get? a name = get? b name) : a = b := by
  refine eq_of_mem_iff ha hb fun ⟨name, value⟩ ↦ ?_
  rw [mem_iff_get?_eq_some ha, mem_iff_get?_eq_some hb, h]

/-- A name above all others goes to the end. -/
theorem insert_of_forall_lt {name : String} {value : α} {entries : Entries α}
    (h : ∀ pair ∈ entries, pair.1 < name) :
    insert name value entries = entries ++ [(name, value)] := by
  induction entries with
  | nil => rfl
  | cons first rest ih =>
    obtain ⟨n, v⟩ := first
    have hn : n < name := h _ List.mem_cons_self
    have hne : name ≠ n := fun heq ↦ String.lt_irrefl n (heq ▸ hn)
    rw [insert, if_neg hne, if_neg (String.lt_asymm hn),
      ih fun pair hpair ↦ h pair (List.mem_cons_of_mem _ hpair)]
    rfl

/-- Pairs in order are collected as they stand. -/
theorem ofPairs_eq_self {entries : Entries α} (h : Ordered entries) :
    ofPairs entries = entries := by
  -- The pairs taken so far stay in front of the others.
  have hfold (taken rest : Entries α) (h : Ordered (taken ++ rest)) :
      rest.foldl (fun entries pair ↦ insert pair.1 pair.2 entries) taken = taken ++ rest := by
    induction rest generalizing taken with
    | nil => exact (List.append_nil taken).symm
    | cons pair rest ih =>
      have hlt : ∀ other ∈ taken, other.1 < pair.1 := fun other hother ↦
        (List.pairwise_append.mp h).2.2 other hother pair List.mem_cons_self
      have happend : taken ++ pair :: rest = taken ++ [pair] ++ rest := by simp
      rw [List.foldl_cons, insert_of_forall_lt hlt, happend]
      exact ih _ (happend ▸ h)
  exact hfold [] entries h

end Responsive.Entries

/-!
# Entries by name

A finite map from names to values, as a list of pairs in increasing order of the names. The order is
that of code points, which is also the byte order of the names in UTF-8, so printing a map in its
stored order prints it sorted.

* `get?_insert`: an insertion changes the value of its own name and no other.
* `get?_erase`: an erasure, likewise.
-/

set_option autoImplicit false
set_option relaxedAutoImplicit false

namespace Responsive

/-- Pairs of a name and a value, in increasing order of the names. -/
abbrev Entries (α : Type) := List (String × α)

namespace Entries

variable {α : Type}

/-- The value of a name. -/
def get? (entries : Entries α) (name : String) : Option α :=
  entries.lookup name

/-- Whether a name has a value. -/
def has (entries : Entries α) (name : String) : Bool :=
  (get? entries name).isSome

/-- Gives a name a value, in place of the one it had. -/
def insert (name : String) (value : α) : Entries α → Entries α
  | [] => [(name, value)]
  | (n, v) :: rest =>
    if name = n then (name, value) :: rest
    else if name < n then (name, value) :: (n, v) :: rest
    else (n, v) :: insert name value rest

/-- Takes a name out. -/
def erase (name : String) (entries : Entries α) : Entries α :=
  entries.filter (·.1 != name)

/-- Collects pairs in any order; of two pairs with one name the later one stays. -/
def ofPairs (pairs : List (String × α)) : Entries α :=
  pairs.foldl (fun entries pair ↦ insert pair.1 pair.2 entries) []

/-- The names in increasing order. -/
def names (entries : Entries α) : List String :=
  entries.map (·.1)

@[simp] theorem get?_nil (name : String) : get? ([] : Entries α) name = none := rfl

@[simp] theorem get?_cons (n name : String) (v : α) (rest : Entries α) :
    get? ((n, v) :: rest) name = if name = n then some v else get? rest name := by
  rw [get?, List.lookup_cons]
  by_cases h : name = n
  · simp [h]
  · rw [beq_false_of_ne h, if_neg h]
    rfl

theorem get?_insert (entries : Entries α) (name other : String) (value : α) :
    get? (insert name value entries) other =
      if other = name then some value else get? entries other := by
  induction entries with
  | nil => simp [insert]
  | cons pair rest ih =>
    obtain ⟨n, v⟩ := pair
    rw [insert]
    split
    next hn => simp only [hn, get?_cons]; split <;> rfl
    next hn =>
      split
      · simp only [get?_cons]
      · simp only [get?_cons, ih]
        by_cases ho : other = n
        · simp [ho, Ne.symm hn]
        · simp [ho]

theorem get?_erase (entries : Entries α) (name other : String) :
    get? (erase name entries) other = if other = name then none else get? entries other := by
  induction entries with
  | nil => simp [erase]
  | cons pair rest ih =>
    obtain ⟨n, v⟩ := pair
    by_cases hn : n = name
    · subst hn
      rw [erase, List.filter_cons_of_neg (by simp)]
      rw [erase] at ih
      rw [ih, get?_cons]
      split <;> rfl
    · rw [erase, List.filter_cons_of_pos (by simpa using hn), get?_cons, get?_cons]
      rw [erase] at ih
      rw [ih]
      by_cases ho : other = n
      · simp [ho, hn]
      · simp [ho]

end Entries

end Responsive

import Responsive.Proofs.Text.Occurrence

/-!
# Texts split at a word

A text is split at every occurrence of a word, from left to right. If a word has its first character
nowhere else, no occurrence of it reaches from one text over into another one behind a separator, so
splitting undoes joining as far as the joined texts do not hold the word themselves.

* `split_append_word_append`: two texts with the word between them are split one by one.
* `split_intercalate`: so is any number of texts.
* `length_split_eq_one_iff`: a text stays in one piece just if the word does not occur in it.
-/

set_option autoImplicit false
set_option relaxedAutoImplicit false

namespace Responsive.Text

/-- The pieces of a text between the occurrences of a word. The empty word splits nothing. -/
def split (word s : List Char) : List (List Char) :=
  if _hword : word = [] then [s]
  else
    match _h : cutAt? word s with
    | none => [s]
    | some cut => cut.1 :: split word cut.2
termination_by s.length
decreasing_by exact length_lt_of_cutAt?_eq_some _hword _h

variable {word : List Char}

theorem split_of_cutAt?_eq_none {s : List Char} (h : cutAt? word s = none) :
    split word s = [s] := by
  rw [split]
  split
  · rfl
  · split <;> simp_all

theorem split_of_cutAt?_eq_some {s before after : List Char} (hword : word ≠ [])
    (h : cutAt? word s = some (before, after)) : split word s = before :: split word after := by
  rw [split, dif_neg hword]
  split <;> simp_all

theorem split_ne_nil (word s : List Char) : split word s ≠ [] := by
  rw [split]
  split
  · exact List.cons_ne_nil _ _
  · split <;> exact List.cons_ne_nil _ _

/-- Two texts with the word between them are split one by one. -/
theorem split_append_word_append (hword : word ≠ []) (hself : Separates word word)
    (a b : List Char) : split word (a ++ word ++ b) = split word a ++ split word b := by
  have hseparates : Separates word (word ++ b) := by
    obtain ⟨c, rest, rfl⟩ := List.exists_cons_of_ne_nil hword
    exact separates_cons.mpr (separates_cons.mp hself)
  cases h : cutAt? word a with
  | none =>
    have hcut : cutAt? word (a ++ word ++ b) = some (a, b) := by
      rw [List.append_assoc, cutAt?_append hword hseparates, h, cutAt?_word_append hword]
      simp
    rw [split_of_cutAt?_eq_none h, split_of_cutAt?_eq_some hword hcut]
    rfl
  | some cut =>
    obtain ⟨before, after⟩ := cut
    have hcut : cutAt? word (a ++ word ++ b) = some (before, after ++ word ++ b) := by
      rw [List.append_assoc, cutAt?_append hword hseparates, h, List.append_assoc]
    rw [split_of_cutAt?_eq_some hword h, split_of_cutAt?_eq_some hword hcut,
      split_append_word_append hword hself after b]
    rfl
termination_by a.length
decreasing_by exact length_lt_of_cutAt?_eq_some hword h

/-- Joined texts are split one by one. -/
theorem split_intercalate (hword : word ≠ []) (hself : Separates word word)
    {pieces : List (List Char)} (h : pieces ≠ []) :
    split word (word.intercalate pieces) = pieces.flatMap (split word) := by
  induction pieces with
  | nil => contradiction
  | cons piece pieces ih =>
    cases pieces with
    | nil => simp
    | cons next pieces =>
      rw [List.intercalate_cons_cons, split_append_word_append hword hself,
        ih (List.cons_ne_nil _ _)]
      rfl

/-- A text stays in one piece just if the word does not occur in it. -/
theorem length_split_eq_one_iff (hword : word ≠ []) {s : List Char} :
    (split word s).length = 1 ↔ ¬ word <:+: s := by
  rw [← cutAt?_eq_none_iff]
  cases h : cutAt? word s with
  | none => simp [split_of_cutAt?_eq_none h]
  | some cut =>
    have hrest := split_ne_nil word cut.2
    rw [split_of_cutAt?_eq_some hword h]
    simpa using hrest

theorem split_of_not_isInfix {s : List Char} (h : ¬ word <:+: s) : split word s = [s] :=
  split_of_cutAt?_eq_none (cutAt?_eq_none_iff.mpr h)

theorem flatMap_split_eq_self {pieces : List (List Char)}
    (h : ∀ piece ∈ pieces, ¬ word <:+: piece) :
    pieces.flatMap (split word) = pieces := by
  induction pieces with
  | nil => rfl
  | cons piece pieces ih =>
    obtain ⟨hpiece, hpieces⟩ := List.forall_mem_cons.mp h
    rw [List.flatMap_cons, split_of_not_isInfix hpiece, ih hpieces]
    rfl

/-- A character that the separator does not have is in one of the joined texts. -/
theorem mem_intercalate_iff {c : Char} (hword : c ∉ word) {pieces : List (List Char)} :
    c ∈ word.intercalate pieces ↔ ∃ piece ∈ pieces, c ∈ piece := by
  induction pieces with
  | nil => simp
  | cons piece pieces ih =>
    cases pieces with
    | nil => simp
    | cons next pieces =>
      rw [List.intercalate_cons_cons, List.mem_append, List.mem_append, ih, or_iff_left hword]
      simp

/-- Joined texts have at least as many pieces as there are texts, and just as many if the word
occurs in none of them. -/
theorem length_flatMap_split_eq_iff (hword : word ≠ []) {pieces : List (List Char)} :
    (pieces.flatMap (split word)).length = pieces.length ↔ ∀ piece ∈ pieces, ¬ word <:+: piece := by
  have hone (s : List Char) : 1 ≤ (split word s).length :=
    List.length_pos_iff.mpr (split_ne_nil word s)
  have hmany (pieces : List (List Char)) :
      pieces.length ≤ (pieces.flatMap (split word)).length := by
    induction pieces with
    | nil => exact Nat.le_refl _
    | cons piece pieces ih =>
      have := hone piece
      rw [List.flatMap_cons, List.length_append, List.length_cons]
      omega
  induction pieces with
  | nil => simp
  | cons piece pieces ih =>
    have hpiece := hone piece
    have hpieces := hmany pieces
    rw [List.forall_mem_cons, ← ih.eq, ← length_split_eq_one_iff hword, List.flatMap_cons,
      List.length_append, List.length_cons]
    omega

end Responsive.Text

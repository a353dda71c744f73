/-!
# Occurrences of a word in a text

Texts are lists of characters. `stripLead?` removes a leading word, and everything else here is
built from it: whether a word occurs, the cut at its first occurrence, and the replacement of all
its occurrences from left to right.

* `stripLead?_eq_some_iff`: stripping succeeds exactly on texts that begin with the word.
* `cutAt?_eq_some`: the two sides of a cut and the word between them give the text back.
-/

set_option autoImplicit false
set_option relaxedAutoImplicit false

namespace Responsive.Text

/-- What follows `lead`, for a text that begins with it. -/
def stripLead? : List Char → List Char → Option (List Char)
  | [], s => some s
  | _ :: _, [] => none
  | a :: lead, c :: s => if a = c then stripLead? lead s else none

theorem stripLead?_eq_some_iff {lead s rest : List Char} :
    stripLead? lead s = some rest ↔ s = lead ++ rest := by
  fun_induction stripLead? lead s with
  | case1 s => simp
  | case2 => simp
  | case3 a lead s ih => simp [ih]
  | case4 a lead c s h => simp [Ne.symm h]

/-- Stripping never lengthens a text. -/
theorem length_of_stripLead?_eq_some {lead s rest : List Char} (h : stripLead? lead s = some rest) :
    s.length = lead.length + rest.length := by
  rw [stripLead?_eq_some_iff.mp h, List.length_append]

/-- Whether `word` occurs somewhere in the text. -/
def occurs (word : List Char) : List Char → Bool
  | [] => word.isEmpty
  | c :: s => (stripLead? word (c :: s)).isSome || occurs word s

/-- The texts before and after the first occurrence of `word`. -/
def cutAt? (word : List Char) : List Char → Option (List Char × List Char)
  | [] => if word.isEmpty then some ([], []) else none
  | c :: s =>
    match stripLead? word (c :: s) with
    | some rest => some ([], rest)
    | none => (cutAt? word s).map fun cut ↦ (c :: cut.1, cut.2)

theorem cutAt?_eq_some {word s before after : List Char}
    (h : cutAt? word s = some (before, after)) : s = before ++ word ++ after := by
  induction s generalizing before with
  | nil =>
    cases word with
    | nil => simp_all [cutAt?]
    | cons a word => simp [cutAt?] at h
  | cons c s ih =>
    simp only [cutAt?] at h
    split at h
    next rest hrest =>
      obtain ⟨rfl, rfl⟩ := by simpa using h
      simpa using stripLead?_eq_some_iff.mp hrest
    next =>
      obtain ⟨cut, hcut, heq⟩ := Option.map_eq_some_iff.mp h
      obtain ⟨rfl, rfl⟩ := by simpa using heq
      simp [ih hcut]

/-- The text after a cut is shorter than the whole when the word is not empty. -/
theorem length_lt_of_cutAt?_eq_some {word s before after : List Char} (hword : word ≠ [])
    (h : cutAt? word s = some (before, after)) : after.length < s.length := by
  have hpos : 0 < word.length := List.length_pos_iff.mpr hword
  rw [cutAt?_eq_some h, List.length_append, List.length_append]
  omega

/-- Replaces every occurrence of `old` by `new`, from left to right. The empty word occurs before
every character and at the end. -/
def replaceAll (old new : List Char) (s : List Char) : List Char :=
  match old, s with
  | [], s => new ++ s.flatMap (fun c ↦ c :: new)
  | _ :: _, [] => []
  | a :: old, c :: s =>
    match _h : stripLead? (a :: old) (c :: s) with
    | some rest => new ++ replaceAll (a :: old) new rest
    | none => c :: replaceAll (a :: old) new s
termination_by s.length
decreasing_by
  · have := length_of_stripLead?_eq_some _h
    simp only [List.length_cons] at *
    omega
  · simp

end Responsive.Text

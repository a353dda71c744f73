import Mathlib.Data.List.Infix
import Responsive.Text.Occurrence

/-!
# Occurrences in joined texts

Whether a word occurs, and where it occurs first, is said here in terms of the splittings of a text.
Two joined texts have no occurrences but their own ones when no occurrence can reach from the first
into the second; `Separates` is a simple condition for that: the second text begins with a character
that the word has at most as its first one.

* `occurs_eq_true_iff`: a word occurs in a text if it is an infix of it.
* `cutAt?_append`: the first cut of a joined text lies in the first part, if that has one.
-/

set_option autoImplicit false
set_option relaxedAutoImplicit false

namespace Responsive.Text

/-- The text begins with a character that the word does not have behind its first one, so that no
occurrence of the word reaches into the text from before. -/
def Separates (word s : List Char) : Prop :=
  ∀ c ∈ s.head?, c ∉ word.tail

@[simp] theorem separates_nil (word : List Char) : Separates word [] := by
  simp [Separates]

@[simp] theorem separates_cons {word s : List Char} {c : Char} :
    Separates word (c :: s) ↔ c ∉ word.tail := by
  simp [Separates]

/-- A text that begins with a character foreign to the word is stripped as if nothing followed the
part before it. -/
theorem stripLead?_append {word s : List Char} (hs : ∀ c ∈ s.head?, c ∉ word) (a : List Char) :
    stripLead? word (a ++ s) = (stripLead? word a).map (· ++ s) := by
  induction a generalizing word with
  | nil =>
    cases word with
    | nil => rfl
    | cons w word =>
      cases s with
      | nil => rfl
      | cons c s =>
        have hne : w ≠ c := by
          rintro rfl
          exact hs w rfl List.mem_cons_self
        simp [stripLead?, hne]
  | cons c a ih =>
    cases word with
    | nil => rfl
    | cons w word =>
      have hs' : ∀ c ∈ s.head?, c ∉ word := fun c hc hmem ↦ hs c hc (List.mem_cons_of_mem _ hmem)
      rw [List.cons_append, stripLead?, stripLead?]
      split
      · exact ih hs'
      · rfl

/-- What a nonempty beginning lets be stripped does not depend on a separated continuation. -/
theorem stripLead?_cons_append {word s : List Char} (hs : Separates word s) (c : Char)
    (a : List Char) :
    stripLead? word (c :: a ++ s) = (stripLead? word (c :: a)).map (· ++ s) := by
  cases word with
  | nil => rfl
  | cons w word =>
    rw [List.cons_append, stripLead?, stripLead?]
    split
    · exact stripLead?_append hs a
    · rfl

theorem occurs_eq_true_iff {word s : List Char} : occurs word s = true ↔ word <:+: s := by
  induction s with
  | nil => simp [occurs]
  | cons c s ih =>
    rw [occurs, Bool.or_eq_true, ih, List.infix_cons_iff, Option.isSome_iff_exists]
    refine or_congr ⟨fun ⟨rest, h⟩ ↦ ⟨rest, (stripLead?_eq_some_iff.mp h).symm⟩, ?_⟩ Iff.rfl
    rintro ⟨rest, h⟩
    exact ⟨rest, stripLead?_eq_some_iff.mpr h.symm⟩

theorem cutAt?_eq_none_iff {word s : List Char} : cutAt? word s = none ↔ ¬ word <:+: s := by
  induction s with
  | nil => cases word <;> simp [cutAt?]
  | cons c s ih =>
    rw [List.infix_cons_iff, not_or, cutAt?, ← ih]
    cases h : stripLead? word (c :: s) with
    | none =>
      have hlead : ¬ word <+: c :: s := by
        rintro ⟨rest, hrest⟩
        rw [stripLead?_eq_some_iff.mpr hrest.symm] at h
        contradiction
      simp [hlead]
    | some rest =>
      have hlead : word <+: c :: s := ⟨rest, (stripLead?_eq_some_iff.mp h).symm⟩
      simp [hlead]

/-- Of two occurrences, the later of which does not begin with a letter from inside the earlier one,
the earlier one ends first. -/
theorem append_isPrefix_of_ne_nil {a b s u v : List Char} {c d : Char} (hb : b ≠ [])
    (hfirst : a ++ c :: u <+: s) (hsecond : a ++ b ++ d :: v <+: s) (hd : d ∉ u) :
    a ++ c :: u <+: a ++ b := by
  obtain ⟨t, rfl⟩ := (List.prefix_append a _).trans hfirst
  rw [List.append_assoc] at hsecond
  rw [List.prefix_append_right_inj] at hfirst hsecond ⊢
  rcases List.prefix_or_prefix_of_prefix hfirst ((List.prefix_append b _).trans hsecond) with
    h | ⟨w, hw⟩
  · exact h
  cases w with
  | nil => exact ⟨[], by simpa using hw.symm⟩
  | cons x w =>
    obtain ⟨y, b, rfl⟩ := List.exists_cons_of_ne_nil hb
    obtain ⟨t', rfl⟩ := hsecond
    obtain ⟨t'', ht⟩ := hfirst
    obtain ⟨rfl, -⟩ : x = d ∧ w ++ t'' = v ++ t' := by
      rw [← hw] at ht
      simpa using ht
    refine absurd ?_ hd
    rw [← (List.cons.inj hw).2]
    simp

/-- Two occurrences, neither of which begins with a letter from inside the other, lie apart unless
they begin at the same place. -/
theorem eq_or_isPrefix_of_isPrefix {a b s u v : List Char} {c d : Char} (hfirst : a ++ c :: u <+: s)
    (hsecond : b ++ d :: v <+: s) (hc : c ∉ v) (hd : d ∉ u) :
    a = b ∨ a ++ c :: u <+: b ∨ b ++ d :: v <+: a := by
  rcases List.prefix_or_prefix_of_prefix ((List.prefix_append a _).trans hfirst)
    ((List.prefix_append b _).trans hsecond) with ⟨m, rfl⟩ | ⟨m, rfl⟩
  · by_cases hm : m = []
    · simp [hm]
    · exact .inr (.inl (append_isPrefix_of_ne_nil hm hfirst hsecond hd))
  · by_cases hm : m = []
    · simp [hm]
    · exact .inr (.inr (append_isPrefix_of_ne_nil hm hsecond hfirst hc))

/-- A text that begins with the word is cut there. -/
theorem cutAt?_word_append {word : List Char} (hword : word ≠ []) (s : List Char) :
    cutAt? word (word ++ s) = some ([], s) := by
  obtain ⟨c, word, rfl⟩ := List.exists_cons_of_ne_nil hword
  rw [List.cons_append, cutAt?, ← List.cons_append,
    (stripLead?_eq_some_iff : _ ↔ c :: word ++ s = c :: word ++ s).mpr rfl]

/-- The first cut of a text stays where it is, whatever is put behind the word. -/
theorem cutAt?_append_of_eq_some {word s before after : List Char} (hword : word ≠ [])
    (h : cutAt? word s = some (before, after)) (t : List Char) :
    cutAt? word (before ++ word ++ t) = some (before, t) := by
  induction s generalizing before with
  | nil =>
    cases word with
    | nil => exact absurd rfl hword
    | cons a word => simp [cutAt?] at h
  | cons c s ih =>
    rw [cutAt?] at h
    split at h
    next rest hrest =>
      obtain ⟨rfl, -⟩ := Prod.mk.inj (Option.some.inj h)
      exact cutAt?_word_append hword t
    next hnone =>
      obtain ⟨cut, hcut, heq⟩ := Option.map_eq_some_iff.mp h
      obtain ⟨rfl, rfl⟩ := Prod.mk.inj heq
      -- An occurrence at the beginning would end before the cut does, so it would be an old one.
      have hnone' : stripLead? word (c :: (cut.1 ++ word ++ t)) = none := by
        rw [Option.eq_none_iff_forall_ne_some]
        intro rest hrest
        have hprefix : word <+: c :: (cut.1 ++ word) :=
          List.prefix_of_prefix_length_le ⟨rest, (stripLead?_eq_some_iff.mp hrest).symm⟩
            ⟨t, by simp⟩ (by simp; omega)
        obtain ⟨rest', hrest'⟩ := hprefix
        have hstrip : c :: s = word ++ (rest' ++ cut.2) := by
          rw [cutAt?_eq_some hcut, ← List.append_assoc word, hrest', List.cons_append]
        rw [stripLead?_eq_some_iff.mpr hstrip] at hnone
        contradiction
      rw [List.cons_append, List.cons_append, cutAt?, hnone', ih hcut]
      rfl

/-- A character with which the word does not begin is passed over. -/
theorem cutAt?_cons_of_ne {word : List Char} (hword : word ≠ []) {c : Char}
    (hc : word.head? ≠ some c) (s : List Char) :
    cutAt? word (c :: s) = (cutAt? word s).map fun cut ↦ (c :: cut.1, cut.2) := by
  obtain ⟨w, word, rfl⟩ := List.exists_cons_of_ne_nil hword
  have hne : w ≠ c := by simpa using hc
  simp [cutAt?, stripLead?, hne]

/-- The first cut of a text with a separated continuation lies in the text, if that has one, and
else in the continuation. -/
theorem cutAt?_append {word s : List Char} (hword : word ≠ []) (hs : Separates word s)
    (a : List Char) :
    cutAt? word (a ++ s) =
      match cutAt? word a with
      | some (before, after) => some (before, after ++ s)
      | none => (cutAt? word s).map fun cut ↦ (a ++ cut.1, cut.2) := by
  induction a with
  | nil => cases word <;> simp_all [cutAt?]
  | cons c a ih =>
    rw [List.cons_append, cutAt?, ← List.cons_append, stripLead?_cons_append hs, cutAt?]
    cases stripLead? word (c :: a) with
    | some rest => rfl
    | none =>
      simp only [Option.map_none, ih]
      cases cutAt? word a with
      | some cut => rfl
      | none => cases cutAt? word s <;> rfl

/-- A run of characters ends where the continuation begins, if that begins with none of them. -/
theorem takeWhile_append_of_head? {p : Char → Bool} {s : List Char}
    (hs : ∀ c ∈ s.head?, p c = false) (a : List Char) :
    (a ++ s).takeWhile p = a.takeWhile p := by
  induction a with
  | nil => cases s <;> simp_all
  | cons c a ih => by_cases hc : p c = true <;> simp_all

theorem dropWhile_append_of_head? {p : Char → Bool} {s : List Char}
    (hs : ∀ c ∈ s.head?, p c = false) (a : List Char) :
    (a ++ s).dropWhile p = a.dropWhile p ++ s := by
  induction a with
  | nil => cases s <;> simp_all
  | cons c a ih => by_cases hc : p c = true <;> simp_all

/-- A word occurs in joined texts within one of them. -/
theorem isInfix_append_iff {word s : List Char} (hword : word ≠ []) (hs : Separates word s)
    (a : List Char) : word <:+: a ++ s ↔ word <:+: a ∨ word <:+: s := by
  rw [← not_iff_not, not_or, ← cutAt?_eq_none_iff, ← cutAt?_eq_none_iff, ← cutAt?_eq_none_iff,
    cutAt?_append hword hs]
  cases cutAt? word a with
  | some cut => simp
  | none => simp

/-- A word does not begin within characters with which it does not begin. -/
theorem isInfix_append_iff_of_not_mem {c : Char} {word a : List Char} (ha : c ∉ a)
    (s : List Char) : c :: word <:+: a ++ s ↔ c :: word <:+: s := by
  induction a with
  | nil => rfl
  | cons d a ih =>
    simp only [List.mem_cons, not_or] at ha
    rw [List.cons_append, List.infix_cons_iff, ih ha.2, List.cons_prefix_cons]
    simp [ha.1]

/-! ### Replacement of a word -/

section Replace

variable {word new : List Char}

theorem replaceAll_word_append (hword : word ≠ []) (s : List Char) :
    replaceAll word new (word ++ s) = new ++ replaceAll word new s := by
  obtain ⟨c, word, rfl⟩ := List.exists_cons_of_ne_nil hword
  have hstrip : stripLead? (c :: word) (c :: (word ++ s)) = some s := stripLead?_eq_some_iff.mpr rfl
  rw [List.cons_append, replaceAll]
  split <;> simp_all

theorem replaceAll_cons_of_stripLead? {c : Char} {s : List Char} (hword : word ≠ [])
    (h : stripLead? word (c :: s) = none) :
    replaceAll word new (c :: s) = c :: replaceAll word new s := by
  obtain ⟨d, word, rfl⟩ := List.exists_cons_of_ne_nil hword
  rw [replaceAll]
  split <;> simp_all

/-- Characters with which the word does not begin are kept. -/
theorem replaceAll_append_of_not_mem {d : Char} {a : List Char} (ha : d ∉ a) (s : List Char) :
    replaceAll (d :: word) new (a ++ s) = a ++ replaceAll (d :: word) new s := by
  induction a with
  | nil => rfl
  | cons c a ih =>
    simp only [List.mem_cons, not_or] at ha
    rw [List.cons_append, replaceAll_cons_of_stripLead? (by simp) (by simp [stripLead?, ha.1]),
      ih ha.2]
    rfl

/-- A text without the word is kept, whatever separated text follows. -/
theorem replaceAll_append_of_not_isInfix (new : List Char) (hword : word ≠ []) {a s : List Char}
    (hs : Separates word s) (ha : ¬ word <:+: a) :
    replaceAll word new (a ++ s) = a ++ replaceAll word new s := by
  induction a with
  | nil => rfl
  | cons c a ih =>
    rw [List.infix_cons_iff, not_or] at ha
    have hstrip : stripLead? word (c :: a) = none := by
      rw [Option.eq_none_iff_forall_ne_some]
      intro rest hrest
      exact ha.1 ⟨rest, (stripLead?_eq_some_iff.mp hrest).symm⟩
    rw [List.cons_append, replaceAll_cons_of_stripLead? hword, ih ha.2]
    · rfl
    · rw [← List.cons_append, stripLead?_cons_append hs, hstrip]
      rfl

theorem replaceAll_of_not_isInfix (hword : word ≠ []) {s : List Char} (hs : ¬ word <:+: s) :
    replaceAll word new s = s := by
  have h := replaceAll_append_of_not_isInfix new hword (separates_nil word) hs
  obtain ⟨c, word, rfl⟩ := List.exists_cons_of_ne_nil hword
  rw [List.append_nil, replaceAll, List.append_nil] at h
  exact h

end Replace

end Responsive.Text

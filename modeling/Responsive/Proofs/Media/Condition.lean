import Mathlib.Data.List.TakeWhile
import Responsive.Media.Sheet
import Responsive.Proofs.Text.Digit
import Responsive.Proofs.Text.Occurrence

/-!
# Width conditions in joined texts

A condition is well formed if its gap is blank and its number is a nonempty run of digits. Those are
the conditions that a reader finds, and it finds each of them whatever follows. A condition, a brace
and an `@media` cannot reach into one another: every character that begins one of them is a fence,
a character that stands in none of the others and in none of its own kind behind the first place.

* `read?_text_append`: a well-formed condition is read back.
* `read?_cons_append`: what is read off a text does not depend on a fenced continuation.
-/

set_option autoImplicit false
set_option relaxedAutoImplicit false

namespace Responsive.Media

open Text

/-- A blank gap and a nonempty run of digits. The run is the longest one that can be read, as a
letter follows it. -/
structure Condition.WellFormed (c : Condition) : Prop where
  isBlank_of_mem : ∀ x ∈ c.gap, isBlank x = true
  digits_ne_nil : c.digits ≠ []
  isDecimalDigit_of_mem : ∀ x ∈ c.digits, isDecimalDigit x = true

/-- A condition may have one space after the colon or none. -/
theorem Condition.WellFormed.of_gap {gap digits : List Char}
    (h : (Condition.mk [] digits).WellFormed) (hgap : gap = [] ∨ gap = [' ']) :
    (Condition.mk gap digits).WellFormed := by
  refine ⟨fun c hc ↦ ?_, h.digits_ne_nil, h.isDecimalDigit_of_mem⟩
  rcases hgap with rfl | rfl
  · contradiction
  · obtain rfl := List.mem_singleton.mp hc
    decide

/-- The decimal text of a number may stand in a condition. -/
theorem Condition.wellFormed_decimalNat {gap : List Char} (hgap : ∀ c ∈ gap, isBlank c = true)
    (n : Nat) : (Condition.mk gap (decimalNat n)).WellFormed :=
  ⟨hgap, decimalNat_ne_nil n, fun _ hc ↦ isDecimalDigit_of_isDigit (isDigit_of_mem_decimalNat hc)⟩

theorem mediaWord_ne_nil : mediaWord ≠ [] := by
  simp [mediaWord]

/-- A character at which no condition and no `@media` is broken off: neither has it behind its first
character. -/
def isFence (c : Char) : Bool :=
  !(mediaWord.tail ++ widthWord.tail ++ unitWord).contains c && !isBlank c && !isDecimalDigit c

/-- Nothing or a text that begins with a fence. -/
def Fenced (s : List Char) : Prop :=
  ∀ c ∈ s.head?, isFence c = true

@[simp] theorem fenced_cons {c : Char} {s : List Char} : Fenced (c :: s) ↔ isFence c = true := by
  simp [Fenced]

section Fence

variable {s : List Char} (hs : Fenced s)
include hs

theorem Fenced.separates_mediaWord : Separates mediaWord s := by
  intro c hc hmem
  have hfence := hs c hc
  simp_all [isFence]

theorem Fenced.separates_widthWord : Separates widthWord s := by
  intro c hc hmem
  have hfence := hs c hc
  simp_all [isFence]

theorem Fenced.not_mem_unitWord : ∀ c ∈ s.head?, c ∉ unitWord := by
  intro c hc hmem
  have hfence := hs c hc
  simp_all [isFence]

theorem Fenced.isBlank_eq_false : ∀ c ∈ s.head?, isBlank c = false := by
  intro c hc
  have hfence := hs c hc
  simp_all [isFence]

theorem Fenced.isDecimalDigit_eq_false : ∀ c ∈ s.head?, isDecimalDigit c = false := by
  intro c hc
  have hfence := hs c hc
  simp_all [isFence]

end Fence

namespace Condition

/-- The tail of a reader of conditions, behind the leading word. -/
theorem read?_widthWord_append (s : List Char) :
    read? (widthWord ++ s) =
      match (s.dropWhile isBlank).takeWhile isDecimalDigit,
        stripLead? unitWord ((s.dropWhile isBlank).dropWhile isDecimalDigit) with
      | d :: digits, some rest => some (⟨s.takeWhile isBlank, d :: digits⟩, rest)
      | _, _ => none := by
  have hlead : stripLead? widthWord (widthWord ++ s) = some s := stripLead?_eq_some_iff.mpr rfl
  simp only [read?, hlead]
  cases (s.dropWhile isBlank).takeWhile isDecimalDigit with
  | nil => rfl
  | cons d digits =>
    cases stripLead? unitWord ((s.dropWhile isBlank).dropWhile isDecimalDigit) <;> rfl

theorem read?_eq_none_of_stripLead? {s : List Char} (h : stripLead? widthWord s = none) :
    read? s = none := by
  simp [read?, h]

/-- A text that does not begin with the first letter of a condition begins with no condition. -/
theorem read?_cons_of_ne {c : Char} (hc : c ≠ 'w') (s : List Char) : read? (c :: s) = none := by
  apply read?_eq_none_of_stripLead?
  simp [widthWord, stripLead?, Ne.symm hc]

theorem wellFormed_of_read? {s rest : List Char} {c : Condition} (h : read? s = some (c, rest)) :
    c.WellFormed := by
  simp only [read?] at h
  split at h
  · contradiction
  next s' _ =>
    split at h
    next d digits _ hdigits _ =>
      obtain ⟨rfl, rfl⟩ := by simpa using h
      exact ⟨fun x hx ↦ List.mem_takeWhile_imp hx, by simp [hdigits],
        fun x hx ↦ List.mem_takeWhile_imp hx⟩
    · contradiction

theorem read?_text_append {c : Condition} (hc : c.WellFormed) (s : List Char) :
    read? (c.text ++ s) = some (c, s) := by
  obtain ⟨gap, digits⟩ := c
  obtain ⟨hgap, hne, hdigits⟩ := hc
  obtain ⟨d, digits, rfl⟩ := List.exists_cons_of_ne_nil hne
  have hblank : ∀ x ∈ (d :: digits ++ (unitWord ++ s)).head?, isBlank x = false := by
    intro x hx
    obtain rfl : d = x := by simpa using hx
    exact isBlank_eq_false_of_isDecimalDigit (hdigits d List.mem_cons_self)
  have hunit : ∀ x ∈ (unitWord ++ s).head?, isDecimalDigit x = false := by
    intro x hx
    obtain rfl : 'p' = x := by simpa [unitWord] using hx
    decide
  have htext : text ⟨gap, d :: digits⟩ ++ s =
      widthWord ++ (gap ++ (d :: digits ++ (unitWord ++ s))) := by
    simp [text]
  rw [htext, read?_widthWord_append, dropWhile_append_of_head? hblank,
    takeWhile_append_of_head? hblank, List.takeWhile_eq_self_iff.mpr hgap,
    List.dropWhile_eq_nil_iff.mpr hgap, List.nil_append, takeWhile_append_of_head? hunit,
    dropWhile_append_of_head? hunit, List.takeWhile_eq_self_iff.mpr hdigits,
    List.dropWhile_eq_nil_iff.mpr hdigits, List.nil_append, stripLead?_eq_some_iff.mpr rfl]

/-- What is read off a nonempty text does not depend on a fenced continuation. -/
theorem read?_cons_append {s : List Char} (hs : Fenced s) (x : Char) (a : List Char) :
    read? (x :: a ++ s) = (read? (x :: a)).map fun r ↦ (r.1, r.2 ++ s) := by
  cases hlead : stripLead? widthWord (x :: a) with
  | none =>
    rw [read?_eq_none_of_stripLead? hlead, read?_eq_none_of_stripLead?]
    · rfl
    · rw [stripLead?_cons_append hs.separates_widthWord, hlead]
      rfl
  | some tail =>
    rw [stripLead?_eq_some_iff.mp hlead, List.append_assoc, read?_widthWord_append,
      read?_widthWord_append, dropWhile_append_of_head? hs.isBlank_eq_false,
      takeWhile_append_of_head? hs.isBlank_eq_false,
      takeWhile_append_of_head? hs.isDecimalDigit_eq_false,
      dropWhile_append_of_head? hs.isDecimalDigit_eq_false, stripLead?_append hs.not_mem_unitWord]
    cases List.takeWhile isDecimalDigit (List.dropWhile isBlank tail) with
    | nil => rfl
    | cons d digits =>
      cases stripLead? unitWord
        (List.dropWhile isDecimalDigit (List.dropWhile isBlank tail)) <;> rfl

/-- The text of a condition begins with a letter that it does not have anywhere else. -/
theorem text_eq_cons (c : Condition) :
    c.text = 'w' :: (widthWord.tail ++ c.gap ++ c.digits ++ unitWord) := rfl

/-- No character of a well-formed condition but its first one is a fence. -/
theorem isFence_eq_false_of_mem_tail {c : Condition} (hc : c.WellFormed) {x : Char}
    (hx : x ∈ widthWord.tail ++ c.gap ++ c.digits ++ unitWord) : isFence x = false := by
  simp only [List.mem_append] at hx
  rcases hx with ((hx | hx) | hx) | hx
  · simp_all [isFence]
  · simp [isFence, hc.isBlank_of_mem x hx]
  · simp [isFence, hc.isDecimalDigit_of_mem x hx]
  · simp_all [isFence]

/-- A fence with which no condition begins stands in no condition. -/
theorem not_mem_text {c : Condition} (hc : c.WellFormed) {x : Char} (hx : isFence x = true)
    (hne : x ≠ 'w') : x ∉ c.text := by
  rw [text_eq_cons, List.mem_cons, not_or]
  refine ⟨hne, fun hmem ↦ ?_⟩
  rw [isFence_eq_false_of_mem_tail hc hmem] at hx
  contradiction

end Condition

end Responsive.Media

import Responsive.Proofs.Media.Condition

/-!
# Parts of a rewritten text

A rewriting is given by the list of its parts: characters that are copied, and conditions that get
the new number of a boundary. Read one way the list gives the old text, read the other way the new
one, so every character of the old text is copied or replaced exactly once, in order.

* `eq_of_moved_iff`: a list of parts is known by its old text and the places of its moved parts.
* `target_eq_source_of_targets_eq`: replacements cannot make up for one another. If the new text is
  the old one, then every single replacement is the text that it replaces.
* `located_of_targets_eq`: a word whose letters but the first are foreign to the first letter of a
  condition occurs in the new text at the start of a replacement, or in copied characters only.
-/

set_option autoImplicit false
set_option relaxedAutoImplicit false

namespace Responsive.Media

open Text

/-- A character that is copied, or a condition that is moved to a boundary. -/
inductive Part
  | copied (c : Char)
  | moved (condition : Condition) (boundary : Boundary)
deriving DecidableEq, Repr

namespace Part

/-- The old text of a part. -/
def source : Part → List Char
  | copied c => [c]
  | moved condition _ => condition.text

/-- The new text of a part. -/
def target : Part → List Char
  | copied c => [c]
  | moved _ boundary => boundary.replacement

/-- Only well-formed conditions are moved, each to the first boundary that has its number. -/
def Proper (boundaries : List Boundary) : Part → Prop
  | copied _ => True
  | moved condition boundary =>
    condition.WellFormed ∧ condition.boundary? boundaries = some boundary

/-- The old text of a list of parts. -/
def sources (parts : List Part) : List Char :=
  parts.flatMap source

/-- The new text of a list of parts. -/
def targets (parts : List Part) : List Char :=
  parts.flatMap target

@[simp] theorem sources_nil : sources [] = [] := rfl

@[simp] theorem targets_nil : targets [] = [] := rfl

@[simp] theorem sources_cons (p : Part) (parts : List Part) :
    sources (p :: parts) = p.source ++ sources parts := rfl

@[simp] theorem targets_cons (p : Part) (parts : List Part) :
    targets (p :: parts) = p.target ++ targets parts := rfl

@[simp] theorem sources_append (first second : List Part) :
    sources (first ++ second) = sources first ++ sources second :=
  List.flatMap_append

@[simp] theorem targets_append (first second : List Part) :
    targets (first ++ second) = targets first ++ targets second :=
  List.flatMap_append

@[simp] theorem sources_map_copied (s : List Char) : sources (s.map copied) = s := by
  induction s with
  | nil => rfl
  | cons c s ih => simp [source, ih]

@[simp] theorem targets_map_copied (s : List Char) : targets (s.map copied) = s := by
  induction s with
  | nil => rfl
  | cons c s ih => simp [target, ih]

theorem proper_of_mem_map_copied {boundaries : List Boundary} {s : List Char} {p : Part}
    (hp : p ∈ s.map copied) : p.Proper boundaries := by
  obtain ⟨c, -, rfl⟩ := List.mem_map.mp hp
  trivial

theorem source_ne_nil (p : Part) : p.source ≠ [] := by
  cases p <;> simp [source, Condition.text_eq_cons]

/-- A list of parts is cut in one way only at a given place of the old text. -/
theorem append_inj_of_sources_eq {first second first' second' : List Part}
    (h : first ++ second = first' ++ second') (hsources : sources first = sources first') :
    first = first' ∧ second = second' := by
  induction first generalizing first' with
  | nil =>
    cases first' with
    | nil => exact ⟨rfl, h⟩
    | cons p first' => simp [source_ne_nil] at hsources
  | cons p first ih =>
    cases first' with
    | nil => simp [source_ne_nil] at hsources
    | cons p' first' =>
      obtain ⟨rfl, htail⟩ := List.cons.inj h
      obtain ⟨rfl, rfl⟩ := ih htail (List.append_cancel_left hsources)
      exact ⟨rfl, rfl⟩

/-! ### The places of moved parts -/

section Places

variable {parts : List Part} {condition : Condition} {boundary : Boundary}

theorem sources_eq_nil_iff : sources parts = [] ↔ parts = [] := by
  cases parts <;> simp [source_ne_nil]

/-- The part that is moved at the beginning of the old text is the first one. -/
theorem exists_moved_at_nil_iff {p : Part} :
    (∃ lead rest, p :: parts = lead ++ moved condition boundary :: rest ∧ sources lead = []) ↔
      p = moved condition boundary := by
  constructor
  · rintro ⟨lead, rest, hparts, hlead⟩
    rw [sources_eq_nil_iff.mp hlead] at hparts
    exact (List.cons.inj hparts).1
  · rintro rfl
    exact ⟨[], parts, rfl, rfl⟩

/-- The parts that are moved behind the first one. -/
theorem exists_moved_at_append_iff {p : Part} {before : List Char} :
    (∃ lead rest, p :: parts = lead ++ moved condition boundary :: rest ∧
        sources lead = p.source ++ before) ↔
      ∃ lead rest, parts = lead ++ moved condition boundary :: rest ∧ sources lead = before := by
  constructor
  · rintro ⟨lead, rest, hparts, hlead⟩
    cases lead with
    | nil =>
      have hnil : p.source = [] := (List.append_eq_nil_iff.mp hlead.symm).1
      exact absurd hnil p.source_ne_nil
    | cons q lead =>
      obtain ⟨rfl, htail⟩ := List.cons.inj hparts
      exact ⟨lead, rest, htail, List.append_cancel_left hlead⟩
  · rintro ⟨lead, rest, rfl, rfl⟩
    exact ⟨p :: lead, rest, rfl, rfl⟩

/-- A list of parts is known by its old text and the places of its moved parts. -/
theorem eq_of_moved_iff {parts' : List Part} (hsources : sources parts = sources parts')
    (h : ∀ before condition boundary,
      (∃ lead rest, parts = lead ++ moved condition boundary :: rest ∧ sources lead = before) ↔
        ∃ lead rest, parts' = lead ++ moved condition boundary :: rest ∧ sources lead = before) :
    parts = parts' := by
  induction parts generalizing parts' with
  | nil => exact (sources_eq_nil_iff.mp hsources.symm).symm
  | cons p parts ih =>
    cases parts' with
    | nil => exact sources_eq_nil_iff.mp hsources
    | cons p' parts' =>
      have hhead (condition : Condition) (boundary : Boundary) :
          p = moved condition boundary ↔ p' = moved condition boundary := by
        rw [← exists_moved_at_nil_iff, h [] condition boundary, exists_moved_at_nil_iff]
      obtain rfl : p = p' := by
        cases p with
        | moved condition boundary => exact ((hhead condition boundary).mp rfl).symm
        | copied c =>
          cases p' with
          | moved condition boundary => exact (hhead condition boundary).mpr rfl
          | copied c' =>
            simp only [sources_cons, source, List.singleton_append, List.cons.injEq] at hsources
            rw [hsources.1]
      rw [ih (List.append_cancel_left hsources)]
      intro before condition boundary
      rw [← exists_moved_at_append_iff, h, exists_moved_at_append_iff]

end Places

/-! ### Replacements do not make up for one another -/

section Cancellation

variable {boundaries : List Boundary}

/-- New text that is ahead of the old one stays ahead: the next condition would have to begin inside
another one. -/
theorem append_targets_ne_sources {parts : List Part}
    (hparts : ∀ p ∈ parts, p.Proper boundaries) (ahead : List Char) (hahead : ahead ≠ []) :
    ahead ++ targets parts ≠ sources parts := by
  induction parts generalizing ahead with
  | nil => simpa using hahead
  | cons p parts ih =>
    obtain ⟨x, ahead, rfl⟩ := List.exists_cons_of_ne_nil hahead
    replace ih := ih fun p hp ↦ hparts p (List.mem_cons_of_mem _ hp)
    intro h
    cases p with
    | copied c =>
      simp only [targets_cons, sources_cons, source, target, List.cons_append, List.nil_append,
        List.cons.injEq] at h
      exact ih (ahead ++ [c]) (by simp) (by simpa using h.2)
    | moved condition boundary =>
      have hwell : condition.WellFormed := (hparts _ List.mem_cons_self).1
      have hreplacement : boundary.replacement ≠ [] := by simp [Boundary.replacement, widthWord]
      rw [targets_cons, sources_cons, source, target, List.append_eq_append_iff] at h
      rcases h with ⟨rest, htext, hrest⟩ | ⟨rest, -, hrest⟩
      · cases rest with
        | nil => exact ih _ hreplacement (by simpa using hrest)
        | cons y rest =>
          -- The replacement begins inside the condition, whose first letter does not come again.
          have hy : y = 'w' := by
            simpa [Boundary.replacement, widthWord, eq_comm] using (List.cons.inj hrest).1
          rw [Condition.text_eq_cons, List.cons_append, List.cons.injEq] at htext
          have hfence := Condition.isFence_eq_false_of_mem_tail hwell (x := y)
            (by rw [htext.2]; simp)
          rw [hy] at hfence
          contradiction
      · exact ih (rest ++ boundary.replacement) (by simp [hreplacement])
          (by simpa using hrest.symm)

/-- A replacement is no shorter beginning of the condition that it replaces, as the unit stands only
at the end of that. -/
theorem eq_nil_of_text_eq_replacement_append {condition : Condition} {boundary : Boundary}
    (hwell : condition.WellFormed) {rest : List Char}
    (h : condition.text = boundary.replacement ++ rest) : rest = [] := by
  rw [Condition.text, Boundary.replacement, List.append_assoc, List.append_assoc, List.append_assoc,
    List.append_assoc, List.append_cancel_left_eq, ← List.append_assoc,
    List.append_eq_append_iff] at h
  rcases h with ⟨y, -, hunit⟩ | ⟨y, hnumber, hunit⟩
  · have hlength := congrArg List.length hunit
    simp only [List.length_append] at hlength
    exact List.eq_nil_of_length_eq_zero (by omega)
  · cases y with
    | nil => simpa using hunit
    | cons z y =>
      have hz : z = 'p' := by simpa [unitWord, eq_comm] using (List.cons.inj hunit).1
      have hmem : 'p' ∈ condition.gap ++ condition.digits := by
        rw [hnumber, hz]
        simp
      rcases List.mem_append.mp hmem with hgap | hdigits
      · exact absurd (hwell.isBlank_of_mem _ hgap) (by decide)
      · exact absurd (hwell.isDecimalDigit_of_mem _ hdigits) (by decide)

/-- If the new text is the old one, then every part has its old text. -/
theorem target_eq_source_of_targets_eq {parts : List Part}
    (hparts : ∀ p ∈ parts, p.Proper boundaries) (h : targets parts = sources parts) :
    ∀ p ∈ parts, p.target = p.source := by
  induction parts with
  | nil => simp
  | cons p parts ih =>
    have hparts' : ∀ q ∈ parts, q.Proper boundaries :=
      fun q hq ↦ hparts q (List.mem_cons_of_mem _ hq)
    suffices hp : p.target = p.source by
      rw [targets_cons, sources_cons, hp, List.append_cancel_left_eq] at h
      simpa [hp] using ih hparts' h
    cases p with
    | copied c => rfl
    | moved condition boundary =>
      have hwell : condition.WellFormed := (hparts _ List.mem_cons_self).1
      rw [targets_cons, sources_cons, List.append_eq_append_iff] at h
      rcases h with ⟨rest, htext, -⟩ | ⟨rest, htext, hrest⟩
      · have hnil := eq_nil_of_text_eq_replacement_append hwell htext
        simpa [hnil] using htext.symm
      · by_cases hnil : rest = []
        · simpa [hnil] using htext
        · exact absurd hrest.symm (append_targets_ne_sources hparts' _ hnil)

/-- The new text is the old one just if every part has its old text. -/
theorem targets_eq_sources_iff {parts : List Part} (hparts : ∀ p ∈ parts, p.Proper boundaries) :
    targets parts = sources parts ↔ ∀ p ∈ parts, p.target = p.source :=
  ⟨target_eq_source_of_targets_eq hparts, List.flatMap_congr⟩

end Cancellation

/-! ### Occurrences of a word in the new text -/

/-- A beginning of the new text without the first letter of a condition consists of copied
characters. -/
theorem exists_of_targets_eq_append {parts : List Part} {u y : List Char} (hu : 'w' ∉ u)
    (h : targets parts = u ++ y) : ∃ rest, parts = u.map copied ++ rest ∧ targets rest = y := by
  induction u generalizing parts with
  | nil => exact ⟨parts, rfl, h⟩
  | cons c u ih =>
    simp only [List.mem_cons, not_or] at hu
    cases parts with
    | nil => simp at h
    | cons p parts =>
      cases p with
      | copied d =>
        obtain ⟨rfl, htail⟩ : d = c ∧ targets parts = u ++ y := by simpa [target] using h
        obtain ⟨rest, rfl, hrest⟩ := ih hu.2 htail
        exact ⟨rest, rfl, hrest⟩
      | moved condition boundary =>
        simp [target, Boundary.replacement, widthWord, hu.1] at h

/-- Where a word stands in the new text `x ++ word ++ y`: it begins with a replacement, or all of it
was copied. -/
inductive Located (parts : List Part) (x word y : List Char) : Prop
  | atReplacement (lead rest : List Part) (condition : Condition) (boundary : Boundary)
      (parts_eq : parts = lead ++ moved condition boundary :: rest)
      (targets_lead : targets lead = x)
      (targets_rest : boundary.replacement ++ targets rest = word ++ y)
  | inCopied (lead rest : List Part) (parts_eq : parts = lead ++ (word.map copied ++ rest))
      (targets_lead : targets lead = x) (targets_rest : targets rest = y)

theorem Located.cons {parts : List Part} {x word y : List Char} (h : Located parts x word y)
    (p : Part) : Located (p :: parts) (p.target ++ x) word y := by
  cases h with
  | atReplacement lead rest condition boundary parts_eq targets_lead targets_rest =>
    exact .atReplacement (p :: lead) rest condition boundary (by simp [parts_eq])
      (by simp [targets_lead]) targets_rest
  | inCopied lead rest parts_eq targets_lead targets_rest =>
    exact .inCopied (p :: lead) rest (by simp [parts_eq]) (by simp [targets_lead]) targets_rest

/-- A word occurs in the new text at the start of a replacement or in copied characters only,
provided that its first letter stands in no replacement but at the start, and that the first letter
of a replacement stands in the word at most at the start. -/
theorem located_of_targets_eq {parts : List Part} {c : Char} {u x y : List Char} (hu : 'w' ∉ u)
    (hparts : ∀ condition boundary, moved condition boundary ∈ parts →
      c ∉ boundary.replacement.tail)
    (h : targets parts = x ++ (c :: u ++ y)) : Located parts x (c :: u) y := by
  induction parts generalizing x with
  | nil => simp at h
  | cons p parts ih =>
    replace ih := fun {x} ↦ @ih x fun condition boundary hmem ↦
      hparts condition boundary (List.mem_cons_of_mem _ hmem)
    rw [targets_cons] at h
    rcases List.append_eq_append_iff.mp h with ⟨x', rfl, htail⟩ | ⟨inside, hp, hinside⟩
    · exact (ih htail).cons p
    -- The word begins inside the part or right behind it.
    cases inside with
    | nil =>
      have hx : p.target ++ [] = x := by simpa using hp
      exact hx ▸ (ih (x := []) (by simpa using hinside.symm)).cons p
    | cons c' inside =>
      obtain ⟨rfl, hrest⟩ := List.cons.inj hinside
      cases p with
      | copied d =>
        obtain ⟨rfl, rfl, rfl⟩ : x = [] ∧ d = c ∧ inside = [] := by
          cases x <;> simp_all [target]
        obtain ⟨rest, rfl, htargets⟩ := exists_of_targets_eq_append hu hrest.symm
        exact .inCopied [] rest rfl rfl htargets
      | moved condition boundary =>
        cases x with
        | nil => exact .atReplacement [] parts condition boundary rfl rfl h
        | cons d x =>
          refine absurd ?_ (hparts condition boundary List.mem_cons_self)
          have hp' : boundary.replacement = d :: (x ++ c :: inside) := hp
          simp [hp']

end Part

end Responsive.Media

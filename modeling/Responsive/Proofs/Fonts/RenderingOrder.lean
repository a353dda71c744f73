import Responsive.Proofs.Fonts.Collector

/-!
# Fonts in any rendering order

If the predicate looks at nothing but the form of a name, the trimmed and lower-cased one, then the
forms of the collected fonts do not depend on the order in which the names are met, on how often
each is met or on how it is spelled. This needs the two tests of a name to agree: the test for
generic families ignores ASCII case, and a font is met again under its full lower case.

* `Collector.mem_seen_foldl_register_iff`: the forms that count as met after any names.
* `Collector.run_forms_eq`: two collectors that meet the same forms hold the same forms.
-/

set_option autoImplicit false
set_option relaxedAutoImplicit false

namespace Responsive.Fonts

open Text

/-- The form under which a name counts as met. -/
def form (name : String) : String :=
  lowercase (trimmed name)

namespace Collector

variable {registry : Registry} {c : Collector} {key : String}

/-- A form counts as met once it was met or one of the names has it and is wanted. -/
theorem mem_seen_foldl_register_iff {names : List String} :
    key ∈ (names.foldl (register registry) c).seen ↔
      key ∈ c.seen ∨ ∃ name ∈ names, form name = key ∧ registry.Wants (trimmed name) := by
  induction names generalizing c with
  | nil => simp
  | cons name names ih =>
    rw [List.foldl_cons, ih, List.exists_mem_cons_iff, ← or_assoc]
    refine or_congr_left ?_
    by_cases hadds : registry.Wants (trimmed name) ∧ lowercase (trimmed name) ∉ c.seen
    · rw [register_of_wants hadds.1 hadds.2, List.mem_append, List.mem_singleton,
        and_iff_left hadds.1, form, eq_comm]
    · rw [register_of_not hadds]
      -- A name that adds nothing is not wanted, or its form was met before.
      refine (or_iff_left_of_imp ?_).symm
      rintro ⟨rfl, hwants⟩
      exact Decidable.byContradiction fun hmet ↦ hadds ⟨hwants, hmet⟩

theorem Sound.map_form (h : Sound registry c) : c.fonts.map form = c.seen := by
  rw [h.seen_eq]
  refine List.map_inj_left.mpr fun font hfont ↦ ?_
  rw [form, h.trimmed_eq font hfont]

/-- What a form must be for its names to be wanted, under a predicate that looks at forms alone. -/
theorem wants_iff {keeps : String → Bool}
    (hkeeps : ∀ name, registry.predicate.apply name true = keeps (form name)) (name : String) :
    registry.Wants (trimmed name) ↔
      form name ≠ "" ∧ form name ∉ genericFamilies ∧ keeps (form name) = true := by
  have hform : form (trimmed name) = form name := by rw [form, trimmed_trimmed, form]
  rw [Registry.Wants, hkeeps, hform, form, ne_eq, ne_eq, lowercase_eq_empty_iff]

/-- The forms of the fonts that the names leave behind. -/
theorem mem_forms_run_iff {keeps : String → Bool}
    (hkeeps : ∀ name, registry.predicate.apply name true = keeps (form name))
    {names : List String} :
    key ∈ (run registry (names.map .register)).fonts.map form ↔
      key ∈ names.map form ∧ key ≠ "" ∧ key ∉ genericFamilies ∧ keeps key = true := by
  have hnames : (names.map Call.register).flatMap (offered registry) = names := by
    rw [List.flatMap_map]
    exact List.flatMap_singleton' names
  rw [(run_sound registry _).map_form, run_eq_foldl, hnames, mem_seen_foldl_register_iff,
    List.mem_map, or_iff_right List.not_mem_nil]
  constructor
  · rintro ⟨name, hname, rfl, hwants⟩
    exact ⟨⟨name, hname, rfl⟩, (wants_iff hkeeps name).mp hwants⟩
  · rintro ⟨⟨name, hname, rfl⟩, hwants⟩
    exact ⟨name, hname, rfl, (wants_iff hkeeps name).mpr hwants⟩

/-- Under a predicate that looks at forms alone, new collectors that meet names of the same forms
hold fonts of the same forms: those that are not empty, not generic and kept. -/
theorem run_forms_eq (registry : Registry) (keeps : String → Bool)
    (hkeeps : ∀ name, registry.predicate.apply name true = keeps (form name))
    {names others : List String} (hforms : ∀ key, key ∈ names.map form ↔ key ∈ others.map form) :
    (∀ key, key ∈ (run registry (names.map .register)).fonts.map form ↔
        key ∈ (run registry (others.map .register)).fonts.map form) ∧
      ∀ key, key ∈ (run registry (names.map .register)).fonts.map form ↔
        key ∈ names.map form ∧ key ≠ "" ∧ key ∉ genericFamilies ∧ keeps key = true := by
  constructor
  · intro key
    rw [mem_forms_run_iff hkeeps, mem_forms_run_iff hkeeps, hforms]
  · intro key
    exact mem_forms_run_iff hkeeps

/-- A registry that never requests one font, which the site serves itself. -/
def selfHosting : Registry where
  predicate := { filters := [⟨10, "self-hosted", fun name keep ↦ keep && form name != "inter"⟩] }

/-- Two ways to spell and to order the same names. -/
theorem run_forms_eq_of_selfHosting :
    (∀ key, key ∈ [" Inter ", "Open Sans", "SERIF", "Roboto"].map form ↔
        key ∈ ["roboto", "OPEN SANS", "inter", "open sans ", "Serif"].map form) ∧
      ∀ key, key ∈ (run selfHosting ([" Inter ", "Open Sans", "SERIF", "Roboto"].map
          .register)).fonts.map form ↔
        key ∈ (run selfHosting (["roboto", "OPEN SANS", "inter", "open sans ", "Serif"].map
          .register)).fonts.map form := by
  have hsubset : ∀ key ∈ [" Inter ", "Open Sans", "SERIF", "Roboto"].map form,
      key ∈ ["roboto", "OPEN SANS", "inter", "open sans ", "Serif"].map form := by
    decide +kernel
  have hsupset : ∀ key ∈ ["roboto", "OPEN SANS", "inter", "open sans ", "Serif"].map form,
      key ∈ [" Inter ", "Open Sans", "SERIF", "Roboto"].map form := by
    decide +kernel
  have hkeeps (name : String) : selfHosting.predicate.apply name true = (form name != "inter") := by
    simp [selfHosting, FilterChain.apply]
  have hforms (key : String) := Iff.intro (hsubset key) (hsupset key)
  exact ⟨hforms, (run_forms_eq selfHosting (· != "inter") hkeeps hforms).1⟩

end Collector

end Responsive.Fonts

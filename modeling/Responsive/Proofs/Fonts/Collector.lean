import Responsive.Proofs.Fonts.Address
import Responsive.Proofs.Fonts.Gathering

/-!
# What a collector holds

A collector is filled by any calls of `register` and `gather`. Whatever they were, its fonts are
trimmed names, no two of them the same up to case, none generic and each kept by the predicate, and
the names under which they count as met are their lower cases.

The first spelling of a font is the one that is kept. So the fonts are what is left of the offered
names, once those that the registry does not want and later spellings of earlier fonts are dropped.

* `Collector.Sound`: the invariant, kept by every call.
* `Collector.fonts_foldl_register`: the fonts in terms of the offered names.
* `Collector.run_keeps_first_spellings`: both, for every sequence of calls.
-/

set_option autoImplicit false
set_option relaxedAutoImplicit false

namespace Responsive.Fonts

open Text

/-! ### Wanted fonts -/

/-- A font is wanted if it has a name, in no case that of a generic family, and the predicate keeps
it. -/
def Registry.Wants (registry : Registry) (font : String) : Prop :=
  font ≠ "" ∧ lowercase font ∉ genericFamilies ∧ registry.predicate.apply font true = true

instance (registry : Registry) (font : String) : Decidable (registry.Wants font) :=
  inferInstanceAs (Decidable (_ ∧ _ ∧ _))

/-- No character beyond ASCII has a letter of a generic family for its lower case. -/
theorem isPlain_of_mem_genericFamilies {family : String} (h : family ∈ genericFamilies) :
    (∀ d ∈ family.toList, IsPlain d) ∧ lowerAscii family.toList = family.toList := by
  have hall : (genericFamilies.all fun family ↦
      family.toList.all (decide <| IsPlain ·) && lowerAscii family.toList == family.toList) =
        true := by
    decide +kernel
  obtain ⟨hplain, hlower⟩ := Bool.and_eq_true_iff.mp (List.all_eq_true.mp hall family h)
  exact ⟨fun d hd ↦ of_decide_eq_true (List.all_eq_true.mp hplain d hd), beq_iff_eq.mp hlower⟩

/-- The test for generic families ignores ASCII case, and could as well ignore all case. -/
theorem isWebFont_iff (name : String) :
    isWebFont name = true ↔ lowercase (trimmed name) ∉ genericFamilies := by
  have hgeneric :
      (genericFamilies.any fun family ↦ eqAscii family.toList (trim name.toList)) = true ↔
      lowercase (trimmed name) ∈ genericFamilies := by
    rw [List.any_eq_true, ← toList_trimmed]
    constructor
    · rintro ⟨family, hfamily, heq⟩
      obtain ⟨hplain, hlower⟩ := isPlain_of_mem_genericFamilies hfamily
      rw [eqAscii, beq_iff_eq, hlower] at heq
      rwa [(lowercase_eq_iff hplain).mpr heq.symm]
    · intro hfamily
      obtain ⟨hplain, hlower⟩ := isPlain_of_mem_genericFamilies hfamily
      refine ⟨_, hfamily, ?_⟩
      rw [eqAscii, beq_iff_eq, hlower]
      exact ((lowercase_eq_iff hplain).mp rfl).symm
  rw [isWebFont, Bool.not_eq_true', ← Bool.not_eq_true, hgeneric]

namespace Collector

/-! ### One offer -/

variable {registry : Registry} {c : Collector}

/-- A name is added just if its font is wanted and not yet met. -/
theorem offer_eq (registry : Registry) (c : Collector) (name : String) :
    c.offer registry name =
      if registry.Wants (trimmed name) ∧ lowercase (trimmed name) ∉ c.seen then
        (true, { fonts := c.fonts ++ [trimmed name], seen := c.seen ++ [lowercase (trimmed name)] })
      else (false, c) := by
  have hweb := isWebFont_iff (trimmed name)
  rw [trimmed_trimmed] at hweb
  unfold offer Registry.Wants
  by_cases hempty : trimmed name = ""
  · simp [hempty]
  · by_cases hgeneric : lowercase (trimmed name) ∈ genericFamilies
    · simp [hgeneric, Bool.eq_false_iff.mpr (mt hweb.mp (not_not_intro hgeneric))]
    · by_cases hmet : lowercase (trimmed name) ∈ c.seen
      · simp [hmet]
      · by_cases hkept : registry.predicate.apply (trimmed name) true = true
        · simp [hempty, hgeneric, hweb.mpr hgeneric, hmet, hkept]
        · simp [hmet, hkept]

theorem register_of_wants {name : String} (h : registry.Wants (trimmed name))
    (hmet : lowercase (trimmed name) ∉ c.seen) :
    c.register registry name =
      { fonts := c.fonts ++ [trimmed name], seen := c.seen ++ [lowercase (trimmed name)] } := by
  rw [register, offer_eq, if_pos ⟨h, hmet⟩]

theorem register_of_not {name : String}
    (h : ¬ (registry.Wants (trimmed name) ∧ lowercase (trimmed name) ∉ c.seen)) :
    c.register registry name = c := by
  rw [register, offer_eq, if_neg h]

/-- The answer to an offer tells whether one font was appended; if not, nothing has changed. -/
theorem offer_answer (registry : Registry) (c : Collector) (name : String) :
    ((c.offer registry name).1 = true ↔
        ∃ font, (c.register registry name).fonts = c.fonts ++ [font]) ∧
      ((c.offer registry name).1 = false → c.register registry name = c) := by
  by_cases h : registry.Wants (trimmed name) ∧ lowercase (trimmed name) ∉ c.seen
  · rw [register_of_wants h.1 h.2, offer_eq, if_pos h]
    exact ⟨iff_of_true rfl ⟨_, rfl⟩, fun hfalse ↦ absurd hfalse.symm Bool.false_ne_true⟩
  · rw [register_of_not h, offer_eq, if_neg h]
    refine ⟨iff_of_false Bool.false_ne_true ?_, fun _ ↦ rfl⟩
    rintro ⟨font, hfonts⟩
    simpa using congrArg List.length hfonts

/-! ### The invariant -/

/-- What a collector holds at any time. -/
structure Sound (registry : Registry) (c : Collector) : Prop where
  seen_eq : c.seen = c.fonts.map lowercase
  distinct : (c.fonts.map lowercase).Nodup
  trimmed_eq : ∀ font ∈ c.fonts, trimmed font = font
  wanted : ∀ font ∈ c.fonts, registry.Wants font

theorem sound_empty (registry : Registry) : Sound registry {} where
  seen_eq := rfl
  distinct := List.nodup_nil
  trimmed_eq := by simp
  wanted := by simp

/-- A registration keeps the invariant. -/
theorem Sound.register (h : Sound registry c) (name : String) :
    Sound registry (c.register registry name) := by
  by_cases hadds : registry.Wants (trimmed name) ∧ lowercase (trimmed name) ∉ c.seen
  · obtain ⟨hwants, hmet⟩ := hadds
    rw [register_of_wants hwants hmet]
    constructor
    · rw [List.map_append, h.seen_eq]
      rfl
    · rw [List.map_append, List.map_singleton]
      refine List.nodup_append.mpr ⟨h.distinct,
        List.nodup_cons.mpr ⟨List.not_mem_nil, List.nodup_nil⟩, ?_⟩
      rintro key hkey _ hnew rfl
      rw [← h.seen_eq, List.mem_singleton.mp hnew] at hkey
      exact hmet hkey
    · intro font hfont
      rcases List.mem_append.mp hfont with hold | hnew
      · exact h.trimmed_eq font hold
      · rw [List.mem_singleton.mp hnew, trimmed_trimmed]
    · intro font hfont
      rcases List.mem_append.mp hfont with hold | hnew
      · exact h.wanted font hold
      · rwa [List.mem_singleton.mp hnew]
  · rwa [register_of_not hadds]

theorem Sound.foldl (h : Sound registry c) (names : List String) :
    Sound registry (names.foldl (Collector.register registry) c) := by
  induction names generalizing c with
  | nil => exact h
  | cons name names ih =>
    rw [List.foldl_cons]
    exact ih (h.register name)

/-- Trimmed names are requested as they are. -/
theorem Sound.named_eq (h : Sound registry c) : named c.fonts = c.fonts := by
  have htrimmed : c.fonts.map trimmed = c.fonts :=
    (List.map_inj_left.mpr h.trimmed_eq).trans (List.map_id _)
  rw [named, htrimmed, List.filter_eq_self]
  intro font hfont
  exact decide_eq_true (h.wanted font hfont).1

/-! ### The first spellings -/

/-- Two spellings of one font. -/
def sameFont (font other : String) : Bool :=
  lowercase font == lowercase other

/-- The wanted fonts among the names, each in its first spelling. -/
def firstSpellings (registry : Registry) (names : List String) : List String :=
  ((names.map trimmed).filter (decide <| registry.Wants ·)).eraseDupsBy sameFont

/-- What names add to a collector: the wanted fonts that it has not met, in their first
spellings. -/
theorem fonts_foldl_register (registry : Registry) (names : List String) (c : Collector) :
    (names.foldl (register registry) c).fonts =
      c.fonts ++ ((names.map trimmed).filter fun font ↦
        registry.Wants font ∧ lowercase font ∉ c.seen).eraseDupsBy sameFont := by
  induction names generalizing c with
  | nil => exact (List.append_nil _).symm
  | cons name names ih =>
    rw [List.foldl_cons, ih, List.map_cons]
    by_cases h : registry.Wants (trimmed name) ∧ lowercase (trimmed name) ∉ c.seen
    · rw [register_of_wants h.1 h.2, List.filter_cons_of_pos (by simpa using h),
        List.eraseDupsBy_cons, List.filter_filter, List.append_assoc, List.singleton_append]
      -- The font is met from now on, so its later spellings are dropped.
      refine congrArg (fun fonts ↦ c.fonts ++ trimmed name :: fonts.eraseDupsBy sameFont)
        (List.filter_congr fun font _ ↦ ?_)
      rw [Bool.eq_iff_iff]
      simp only [sameFont, List.mem_append, List.mem_singleton, not_or, decide_eq_true_eq,
        Bool.and_eq_true, beq_eq_false_iff_ne]
      rw [← and_assoc, and_comm]
    · rw [register_of_not h, List.filter_cons_of_neg (by simpa using h)]

/-! ### Calls -/

/-- What a collector is asked to do. -/
inductive Call
  | register (name : String)
  | gather (block : Block) (content : Option String)

/-- The collector after a call. -/
def perform (registry : Registry) (c : Collector) : Call → Collector
  | .register name => c.register registry name
  | .gather block content => c.gather registry block content

/-- The names that a call offers. -/
def offered (registry : Registry) : Call → List String
  | .register name => [name]
  | .gather block content => blockFonts registry block content

/-- A new collector after any calls. -/
def run (registry : Registry) (calls : List Call) : Collector :=
  calls.foldl (perform registry) {}

theorem perform_eq_foldl (registry : Registry) (c : Collector) (call : Call) :
    c.perform registry call = (offered registry call).foldl (register registry) c := by
  cases call with
  | register name => rfl
  | gather block content => exact gather_eq_foldl registry c block content

theorem run_eq_foldl (registry : Registry) (calls : List Call) :
    run registry calls = (calls.flatMap (offered registry)).foldl (register registry) {} := by
  simp only [run, List.foldl_flatMap, ← perform_eq_foldl]

theorem run_sound (registry : Registry) (calls : List Call) :
    Sound registry (run registry calls) := by
  rw [run_eq_foldl]
  exact (sound_empty registry).foldl _

/-- After any calls the invariant holds, and the fonts are the first spellings of what was wanted
among the names offered. A registration answers whether it appended a font, and changes nothing if
it did not; gathering registers what the searched block offers, in the order of the bytes of the
attributes; and there is an address just if there is a font. -/
theorem run_keeps_first_spellings (registry : Registry) (calls : List Call) :
    Sound registry (run registry calls) ∧
      (run registry calls).fonts = firstSpellings registry (calls.flatMap (offered registry)) ∧
      (∀ name, (((run registry calls).offer registry name).1 = true ↔
          ∃ font, ((run registry calls).register registry name).fonts =
            (run registry calls).fonts ++ [font]) ∧
        (((run registry calls).offer registry name).1 = false →
          (run registry calls).register registry name = run registry calls)) ∧
      (∀ (block : Block) (content : Option String), block.attributes.Ordered →
        ∃ pairs : List (String × String), pairs.Pairwise (fun a b ↦ bytes a.1 < bytes b.1) ∧
          (∀ name font, (name, font) ∈ pairs ↔ Searched registry block content ∧ NamesFont name ∧
            block.attributes.get? name = some (.text font)) ∧
          offered registry (.gather block content) = pairs.map Prod.snd ∧
          (run registry calls).gather registry block content =
            (pairs.map Prod.snd).foldl (register registry) (run registry calls)) ∧
      ((run registry calls).url? registry = none ↔ (run registry calls).fonts = []) := by
  have hsound := run_sound registry calls
  refine ⟨hsound, ?_, offer_answer registry _, fun block content hordered ↦ ?_, ?_⟩
  · rw [run_eq_foldl, fonts_foldl_register, firstSpellings]
    simp
  · obtain ⟨pairs, hpairs, hmem, hfonts⟩ := exists_blockFonts_eq registry hordered content
    refine ⟨pairs, hpairs, hmem, hfonts, ?_⟩
    rw [← hfonts, gather_eq_foldl]
  · rw [url?, stylesheetUrl?_eq_none_iff, hsound.named_eq]

/-- A heading with two fonts, one of them generic, and a note on them. -/
def heading : Block where
  name := some "ugb/heading"
  attributes := [("bodyFONTFAMILY", .text " Open Sans "), ("fontFamily", .text "Serif"),
    ("fontFamilyNote", .text "Lato")]

/-- The heading and two names: the note is not read, the generic font is not wanted, and the second
spelling of a font is dropped. -/
theorem run_keeps_first_spellings_of_heading :
    heading.attributes.Ordered ∧
      ∃ pairs : List (String × String),
        (∀ name font, (name, font) ∈ pairs ↔ Searched {} heading (some "<p>Family</p>") ∧
          NamesFont name ∧ heading.attributes.get? name = some (.text font)) ∧
        (run {} [.gather heading (some "<p>Family</p>"), .register "open sans",
            .register "Roboto"]).fonts = ["Open Sans", "Roboto"] ∧
        (run {} []).gather {} heading (some "<p>Family</p>") =
          (pairs.map Prod.snd).foldl (register {}) {} := by
  have hordered : heading.attributes.Ordered := by
    unfold Entries.Ordered
    decide +kernel
  obtain ⟨-, hfonts, -, -, -⟩ := run_keeps_first_spellings {}
    [.gather heading (some "<p>Family</p>"), .register "open sans", .register "Roboto"]
  obtain ⟨-, -, -, hgather, -⟩ := run_keeps_first_spellings {} []
  obtain ⟨pairs, -, hmem, -, hpairs⟩ := hgather heading (some "<p>Family</p>") hordered
  refine ⟨hordered, pairs, hmem, hfonts.trans ?_, hpairs⟩
  decide +kernel

end Collector

end Responsive.Fonts

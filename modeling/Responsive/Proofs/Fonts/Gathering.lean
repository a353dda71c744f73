import Responsive.Fonts.Collector
import Responsive.Proofs.Entries
import Responsive.Proofs.Text.Bytes
import Responsive.Proofs.Text.Lowercase
import Responsive.Proofs.Text.Occurrence

/-!
# What a block gives to the collector

A rendered block is searched for fonts if fonts are collected at all, if its name begins with one of
the namespaces and if its markup mentions a family. It then offers the texts of the attributes that
name a font, in the order of the bytes of their names.

* `isFontAttribute_iff`: the cut by bytes finds every name with the ending.
* `exists_blockFonts_eq`: what a block offers, in terms of its attributes.
-/

set_option autoImplicit false
set_option relaxedAutoImplicit false

namespace Responsive.Fonts

open Text

/-! ### Attributes -/

/-- An attribute that names a font ends in `fontfamily`, in any ASCII case. -/
def NamesFont (name : String) : Prop :=
  ∃ lead ending, name.toList = lead ++ ending ∧ lowerAscii ending = "fontfamily".toList

/-- The ending of an attribute has the bytes of the word, so a cut before it is between
characters. -/
theorem isFontAttribute_iff {name : String} : isFontAttribute name = true ↔ NamesFont name := by
  have hword : lowerAscii attributeEnding = "fontfamily".toList := by decide
  rw [isFontAttribute, Bool.and_eq_true, decide_eq_true_eq]
  constructor
  · rintro ⟨-, hcut⟩
    split at hcut
    next lead ending heq =>
      rw [eqAscii, beq_iff_eq, hword] at hcut
      exact ⟨lead, ending, eq_append_of_cutAtByte?_eq_some heq, hcut⟩
    next => contradiction
  · rintro ⟨lead, ending, hname, hending⟩
    have hlength : byteLength ending = byteLength attributeEnding := by
      rw [← byteLength_lowerAscii, hending]
      decide
    have hstart : byteLength name.toList - byteLength attributeEnding = byteLength lead := by
      rw [hname, byteLength_append, hlength]
      omega
    constructor
    · rw [hname, byteLength_append, hlength]
      omega
    · rw [hstart, hname, cutAtByte?_append]
      exact beq_iff_eq.mpr (hending.trans hword.symm)

/-! ### Blocks -/

/-- The name and the font of an attribute that names a font. -/
def fontAttribute? : String × Json → Option (String × String)
  | (name, .text font) => if isFontAttribute name then some (name, font) else none
  | _ => none

theorem fontAttribute?_eq_some_iff {pair : String × Json} {name font : String} :
    fontAttribute? pair = some (name, font) ↔
      pair = (name, .text font) ∧ isFontAttribute name = true := by
  fun_cases fontAttribute? pair with
  | case1 other given hfont =>
    constructor
    · intro h
      obtain ⟨rfl, rfl⟩ := by simpa using h
      exact ⟨rfl, hfont⟩
    · rintro ⟨heq, -⟩
      obtain ⟨rfl, rfl⟩ := by simpa using heq
      rfl
  | case2 other given hfont =>
    refine iff_of_false (Option.some_ne_none _).symm ?_
    rintro ⟨heq, hname⟩
    obtain ⟨rfl, rfl⟩ := by simpa using heq
    exact hfont hname
  | case3 pair hother =>
    exact iff_of_false (Option.some_ne_none _).symm fun h ↦ hother name font h.1

/-- The attributes of a block that name a font, each with its font. -/
def fontAttributes (block : Block) : List (String × String) :=
  block.attributes.filterMap fontAttribute?

theorem map_fontAttributes (block : Block) :
    (fontAttributes block).map Prod.snd = Collector.attributeFonts block := by
  rw [fontAttributes, Collector.attributeFonts, List.map_filterMap]
  congr 1
  funext ⟨name, value⟩
  cases value with
  | text font =>
    dsimp only [fontAttribute?]
    split <;> rfl
  | _ => rfl

theorem mem_fontAttributes_iff {block : Block} (h : block.attributes.Ordered)
    {name font : String} : (name, font) ∈ fontAttributes block ↔
      NamesFont name ∧ block.attributes.get? name = some (.text font) := by
  rw [fontAttributes, List.mem_filterMap, ← isFontAttribute_iff,
    ← Entries.mem_iff_get?_eq_some h]
  simp only [fontAttribute?_eq_some_iff]
  constructor
  · rintro ⟨pair, hmem, rfl, hname⟩
    exact ⟨hname, hmem⟩
  · rintro ⟨hname, hmem⟩
    exact ⟨_, hmem, rfl, hname⟩

theorem pairwise_fontAttributes {block : Block} (h : block.attributes.Ordered) :
    (fontAttributes block).Pairwise fun a b ↦ bytes a.1 < bytes b.1 := by
  refine List.Pairwise.filterMap _ ?_ h
  rintro a b hlt ⟨name, font⟩ hname ⟨other, otherFont⟩ hother
  rw [(fontAttribute?_eq_some_iff.mp hname).1, (fontAttribute?_eq_some_iff.mp hother).1] at hlt
  exact lt_iff_bytes_lt.mp hlt

/-- A block is searched if fonts are collected, its name begins with a namespace, the empty one
apart, and its content mentions a family. -/
def Searched (registry : Registry) (block : Block) (content : Option String) : Prop :=
  registry.config.enabled = true ∧
    (∃ name ∈ block.name, ∃ space ∈ registry.config.namespaces,
      space ≠ "" ∧ space.toList <+: name.toList) ∧
    ∃ text ∈ content, "family".toList <:+: lowerAscii text.toList

theorem concerns_iff {registry : Registry} {block : Block} {content : Option String} :
    Collector.concerns registry block content = true ↔ Searched registry block content := by
  cases content with
  | none => simp [Collector.concerns, Searched]
  | some text =>
    have hmentions : mentionsFamily text = true ↔ "family".toList <:+: lowerAscii text.toList :=
      occurs_eq_true_iff
    rw [Collector.concerns, Bool.and_eq_true, Bool.and_eq_true, Block.inNamespace_iff, hmentions,
      and_assoc, Searched]
    simp

/-- The names that a block offers: the fonts of its attributes if it is searched, else nothing. -/
def blockFonts (registry : Registry) (block : Block) (content : Option String) : List String :=
  if Collector.concerns registry block content then Collector.attributeFonts block else []

theorem gather_eq_foldl (registry : Registry) (c : Collector) (block : Block)
    (content : Option String) : c.gather registry block content =
      (blockFonts registry block content).foldl (Collector.register registry) c := by
  rw [Collector.gather, blockFonts]
  split <;> rfl

/-- A block offers the texts of exactly those attributes that name a font, if it is searched, in the
order of the bytes of their names. -/
theorem exists_blockFonts_eq (registry : Registry) {block : Block} (h : block.attributes.Ordered)
    (content : Option String) :
    ∃ pairs : List (String × String), pairs.Pairwise (fun a b ↦ bytes a.1 < bytes b.1) ∧
      (∀ name font, (name, font) ∈ pairs ↔ Searched registry block content ∧ NamesFont name ∧
        block.attributes.get? name = some (.text font)) ∧
      blockFonts registry block content = pairs.map Prod.snd := by
  by_cases hsearched : Searched registry block content
  · refine ⟨fontAttributes block, pairwise_fontAttributes h, fun name font ↦ ?_, ?_⟩
    · rw [and_iff_right hsearched, mem_fontAttributes_iff h]
    · rw [blockFonts, if_pos (concerns_iff.mpr hsearched), map_fontAttributes]
  · refine ⟨[], List.Pairwise.nil, fun name font ↦ ?_, ?_⟩
    · simp [hsearched]
    · rw [blockFonts, if_neg (mt concerns_iff.mp hsearched), List.map_nil]

end Responsive.Fonts

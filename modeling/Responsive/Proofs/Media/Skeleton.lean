import Mathlib.Data.List.Forall2
import Responsive.Proofs.Media.Adjust

/-!
# The skeleton of a stylesheet

Cut at its media queries, an adjusted text has the skeleton of the old one: as many queries, with
the same texts before, between and behind them. This is a statement about the adjusted text read
anew, in which what was put in stands next to what was there before.

A query ends at the first brace, or with the text, and an `@media` inside it opens no other one. So
the cut can only be moved by a brace that is put into a query (`Sheet.read_text_mapQueries`). The
numbers hold none, and of the configured values this is the one thing to ask for: they may well hold
an `@media`.

* `read_retarget`: a pass leaves the cut of a text at its queries as it is.
* `queryParts_moved_iff`: the parts of one query.
* `adjust_keeps_skeleton`: the cut of an adjusted text, and its queries beside the old ones.
-/

set_option autoImplicit false
set_option relaxedAutoImplicit false

namespace Responsive.Media

open Text Media.Part

/-! ### Reading a rewritten sheet -/

namespace Sheet

/-- The texts before, between and behind the queries, each up to its `@media`. -/
def gaps : Sheet → List (List Char)
  | plain s => [s]
  | media lead _ rest => lead :: rest.gaps

@[simp] theorem gaps_mapQueries (f : List Char → List Char) (sheet : Sheet) :
    (sheet.mapQueries f).gaps = sheet.gaps := by
  induction sheet with
  | plain s => rfl
  | media lead query rest ih => rw [mapQueries, gaps, gaps, ih]

/-- A sheet begins with the same character when its queries are changed. -/
theorem head?_text_mapQueries (f : List Char → List Char) (sheet : Sheet) :
    (sheet.mapQueries f).text.head? = sheet.text.head? := by
  cases sheet with
  | plain s => rfl
  | media lead query rest =>
    cases lead <;> simp [mapQueries, text, mediaWord]

/-- No query of a text holds a brace. -/
theorem inQuery_of_mem_queries {s query : List Char} (h : query ∈ (read s).queries) :
    ∀ c ∈ query, inQuery c = true := by
  fun_induction read s with
  | case1 => contradiction
  | case2 s lead rest hcut ih =>
    rcases List.mem_cons.mp h with rfl | hmem
    · exact fun c hc ↦ List.mem_takeWhile_imp hc
    · exact ih hmem

/-- Changing the queries of a sheet leaves its cut as it is, if no brace is put into a query. -/
theorem read_text_mapQueries {f : List Char → List Char} {s : List Char}
    (hf : ∀ query ∈ (read s).queries, ∀ c ∈ f query, inQuery c = true) :
    read ((read s).mapQueries f).text = (read s).mapQueries f := by
  fun_induction read s with
  | case1 s hcut => exact read_of_cutAt?_eq_none hcut
  | case2 s lead rest hcut ih =>
    simp only [queries, List.mem_cons, forall_eq_or_imp] at hf
    have hhead : ∀ c ∈ ((read (rest.dropWhile inQuery)).mapQueries f).text.head?,
        inQuery c = false := by
      rw [head?_text_mapQueries, text_read]
      intro c hc
      rw [head?_dropWhile_inQuery c hc]
      rfl
    have htext : ((media lead (rest.takeWhile inQuery)
        (read (rest.dropWhile inQuery))).mapQueries f).text =
        lead ++ mediaWord ++ (f (rest.takeWhile inQuery) ++
          ((read (rest.dropWhile inQuery)).mapQueries f).text) := by
      simp only [mapQueries, text, List.append_assoc]
    rw [htext, read_of_cutAt?_eq_some (cutAt?_append_of_eq_some mediaWord_ne_nil hcut _),
      takeWhile_append_of_head? hhead, dropWhile_append_of_head? hhead,
      List.takeWhile_eq_self_iff.mpr hf.1, List.dropWhile_eq_nil_iff.mpr hf.1, List.nil_append,
      ih hf.2, mapQueries]

end Sheet

section Passes

variable {boundaries : List Boundary}

/-- No brace is put into a query, if none stands in the new side of a boundary. -/
theorem inQuery_of_mem_substitute (hnew : ∀ b ∈ boundaries, '\x7b' ∉ b.new) {query : List Char}
    (hquery : ∀ c ∈ query, Sheet.inQuery c = true) :
    ∀ c ∈ substitute boundaries query, Sheet.inQuery c = true := by
  intro c hc
  rw [← targets_queryParts] at hc
  obtain ⟨p, hp, hc⟩ := List.mem_flatMap.mp hc
  cases p with
  | copied d =>
    apply hquery c
    rw [← @sources_queryParts boundaries query]
    exact List.mem_flatMap.mpr ⟨_, hp, hc⟩
  | moved condition boundary =>
    have hmem : boundary ∈ boundaries :=
      List.mem_of_find?_eq_some (proper_of_mem_queryParts hp).2
    have hne : c ≠ '\x7b' := by
      rintro rfl
      have hbrace : '\x7b' ∈ boundary.new := by
        simpa [target, Boundary.replacement, widthWord, unitWord] using hc
      exact hnew boundary hmem hbrace
    simpa [Sheet.inQuery] using hne

/-- A pass leaves the cut of a text at its queries as it is. -/
theorem read_retarget (hnew : ∀ b ∈ boundaries, '\x7b' ∉ b.new) (css : List Char) :
    Sheet.read (retarget boundaries css) = (Sheet.read css).mapQueries (substitute boundaries) := by
  rw [retarget_eq_retargeted, retargeted, Sheet.read_text_mapQueries]
  intro query hmem
  exact inQuery_of_mem_substitute hnew (Sheet.inQuery_of_mem_queries hmem)

/-- The moved parts of a query are its conditions whose number is on a boundary. -/
theorem queryParts_moved_iff {query before : List Char} {condition : Condition}
    {boundary : Boundary} :
    (∃ lead rest, queryParts boundaries query = lead ++ moved condition boundary :: rest ∧
        sources lead = before) ↔
      Candidate query before condition ∧ condition.boundary? boundaries = some boundary := by
  constructor
  · rintro ⟨lead, rest, hparts, rfl⟩
    have hmem : moved condition boundary ∈ queryParts boundaries query := by simp [hparts]
    obtain ⟨hwell, hboundary⟩ := proper_of_mem_queryParts hmem
    refine ⟨⟨hwell, sources rest, ?_⟩, hboundary⟩
    rw [← @sources_queryParts boundaries query, hparts]
    simp [source]
  · rintro ⟨⟨hwell, after, rfl⟩, hboundary⟩
    have hfenced : Fenced (condition.text ++ after) := by
      rw [Condition.text_eq_cons, List.cons_append, fenced_cons]
      decide
    refine ⟨queryParts boundaries before, queryParts boundaries after, ?_, sources_queryParts _⟩
    rw [List.append_assoc, queryParts_append hfenced,
      queryParts_of_read?_eq_some (Condition.read?_text_append hwell after), Condition.parts,
      hboundary]
    rfl

end Passes

/-! ### The adjusted text -/

/-- An active boundary holds no brace, if the value of its tier holds none. -/
theorem Active.brace_not_mem_new {css : List Char} {r : Resolved} {b : Boundary}
    (hvalues : ∀ t ∈ r.custom, '\x7b' ∉ (r.get t).toList) (h : Active css r b) :
    '\x7b' ∉ b.new := by
  cases h with
  | upper t custom => exact hvalues t custom
  | lower t custom set mentioned n => exact not_mem_decimal_sub_one (by decide) (by decide) n

/-- A query of a text and its counterpart in the adjusted one. Both are made of the same parts, and
so they have the same text left when the moved parts are taken out. What is taken out of the old
query are its conditions on active boundaries, each wherever it stands, and what is taken out of the
new one are their replacements, at the same places. -/
def Counterpart (css : List Char) (r : Resolved) (query query' : List Char) : Prop :=
  ∃ parts : List Part, sources parts = query ∧ targets parts = query' ∧
    ∀ before condition boundary,
      (∃ lead rest, parts = lead ++ moved condition boundary :: rest ∧ sources lead = before) ↔
        Candidate query before condition ∧ r.isBuiltin = false ∧ Active css r boundary ∧
          boundary.old = condition.digits

theorem counterpart_substitute (css : List Char) (r : Resolved) (query : List Char) :
    Counterpart css r query (substitute (movingBoundaries css r) query) := by
  refine ⟨queryParts (movingBoundaries css r) query, sources_queryParts query,
    targets_queryParts query, ?_⟩
  intro before condition boundary
  rw [queryParts_moved_iff, boundary?_movingBoundaries_eq_some_iff]

/-- The adjusted text, cut at its queries anew, if no configured value holds a brace. There are as
many queries as before, the texts before, between and behind them are the same ones in the same
order, and each query is the counterpart of the old one in its place. -/
theorem adjust_keeps_skeleton (css : List Char) (r : Resolved)
    (hvalues : ∀ t ∈ r.custom, '\x7b' ∉ (r.get t).toList) :
    (Sheet.read (adjust css r)).queries.length = (Sheet.read css).queries.length ∧
    (Sheet.read (adjust css r)).gaps = (Sheet.read css).gaps ∧
    List.Forall₂ (Counterpart css r) (Sheet.read css).queries
      (Sheet.read (adjust css r)).queries := by
  have hnew : ∀ b ∈ movingBoundaries css r, '\x7b' ∉ b.new :=
    fun b hb ↦ (mem_movingBoundaries_iff.mp hb).2.brace_not_mem_new hvalues
  rw [adjust_eq_retarget, read_retarget hnew, Sheet.queries_mapQueries, Sheet.gaps_mapQueries]
  refine ⟨List.length_map _, rfl, ?_⟩
  rw [List.forall₂_map_right_iff, List.forall₂_same]
  intro query _
  exact counterpart_substitute css r query

/-- Two queries, of which the first one has conditions on both boundaries of the tablet tier. -/
def twoQueries : List Char :=
  "a@media (max-width: 1023px),(width:1024px)\x7bb\x7d@media print\x7bc\x7d".toList

/-- A tablet width that holds an `@media` opens no query. -/
theorem adjust_keeps_skeleton_of_media :
    adjust twoQueries ⟨⟨"12@media", "768"⟩, .single .tablet⟩ =
      "a@media (max-width:11px),(width:12@mediapx)\x7bb\x7d@media print\x7bc\x7d".toList ∧
    (∀ t ∈ TierSet.single .tablet, '\x7b' ∉ ((⟨"12@media", "768"⟩ : Breakpoints).get t).toList) ∧
    (Sheet.read (adjust twoQueries ⟨⟨"12@media", "768"⟩, .single .tablet⟩)).queries.length =
      (Sheet.read twoQueries).queries.length ∧
    (Sheet.read (adjust twoQueries ⟨⟨"12@media", "768"⟩, .single .tablet⟩)).gaps =
      (Sheet.read twoQueries).gaps ∧
    List.Forall₂ (Counterpart twoQueries ⟨⟨"12@media", "768"⟩, .single .tablet⟩)
      (Sheet.read twoQueries).queries
      (Sheet.read (adjust twoQueries ⟨⟨"12@media", "768"⟩, .single .tablet⟩)).queries := by
  have hvalues : ∀ t ∈ TierSet.single .tablet,
      '\x7b' ∉ ((⟨"12@media", "768"⟩ : Breakpoints).get t).toList := by
    intro t _
    cases t <;> decide
  exact ⟨by decide +kernel, hvalues,
    adjust_keeps_skeleton twoQueries ⟨⟨"12@media", "768"⟩, .single .tablet⟩ hvalues⟩

end Responsive.Media

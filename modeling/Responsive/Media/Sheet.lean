import Responsive.Media.Condition

/-!
# Stylesheets cut at their media queries

A stylesheet alternates between plain text and the queries of its `@media` rules. A query is what
stands between `@media` and the next opening brace, or the end of the text if no brace follows; an
`@media` inside a query opens no query of its own. Nothing else of the language is understood, so
nothing else can be disturbed.

* `text_read`: cutting loses nothing.
* `text_mapQueries_id`: a change of no query is no change of the text.
-/

set_option autoImplicit false
set_option relaxedAutoImplicit false

namespace Responsive.Media

open Text

/-- What opens a media query. -/
def mediaWord : List Char := ['@', 'm', 'e', 'd', 'i', 'a']

/-- A text cut at its media queries. -/
inductive Sheet
  /-- Text without a media query. -/
  | plain (text : List Char)
  /-- Text before the first `@media`, the query behind it, and all that follows the query. -/
  | media (lead query : List Char) (rest : Sheet)
deriving DecidableEq, Repr

namespace Sheet

/-- Whether a character belongs to a query: all do but the brace that ends it. -/
def inQuery (c : Char) : Bool :=
  c != '\x7b'

/-- The text that was cut. -/
def text : Sheet → List Char
  | plain s => s
  | media lead query rest => lead ++ mediaWord ++ query ++ rest.text

/-- Cuts a text at its media queries, from left to right. -/
def read (s : List Char) : Sheet :=
  match _h : cutAt? mediaWord s with
  | none => plain s
  | some (lead, s) => media lead (s.takeWhile inQuery) (read (s.dropWhile inQuery))
termination_by s.length
decreasing_by
  have hcut := length_lt_of_cutAt?_eq_some (by simp [mediaWord]) _h
  have hdrop := (List.dropWhile_suffix inQuery (l := s)).length_le
  omega

/-- The media queries in order. -/
def queries : Sheet → List (List Char)
  | plain _ => []
  | media _ query rest => query :: rest.queries

/-- The sheet with a function applied to each query. -/
def mapQueries (f : List Char → List Char) : Sheet → Sheet
  | plain s => plain s
  | media lead query rest => media lead (f query) (rest.mapQueries f)

@[simp] theorem text_read (s : List Char) : (read s).text = s := by
  fun_induction read s with
  | case1 => rfl
  | case2 s lead rest hcut ih =>
    rw [text, ih, cutAt?_eq_some hcut]
    simp only [List.append_assoc, List.takeWhile_append_dropWhile]

@[simp] theorem queries_mapQueries (f : List Char → List Char) (sheet : Sheet) :
    (sheet.mapQueries f).queries = sheet.queries.map f := by
  induction sheet with
  | plain => rfl
  | media lead query rest ih => simp [mapQueries, queries, ih]

/-- A function that fixes every query leaves the sheet as it is. -/
theorem mapQueries_eq_self {f : List Char → List Char} {sheet : Sheet}
    (h : ∀ query ∈ sheet.queries, f query = query) : sheet.mapQueries f = sheet := by
  induction sheet with
  | plain => rfl
  | media lead query rest ih =>
    simp only [queries, List.mem_cons, forall_eq_or_imp] at h
    rw [mapQueries, h.1, ih h.2]

theorem text_mapQueries_id (sheet : Sheet) : (sheet.mapQueries id).text = sheet.text :=
  congrArg text (mapQueries_eq_self fun _ _ ↦ rfl)

end Sheet

end Responsive.Media

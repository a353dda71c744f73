import Responsive.Text.Occurrence
import Responsive.Tier

/-!
# Placeholder queries

An author may write `@media tablet` or `@media mobile` for the query of a tier. Expansion puts the
concrete query, at the built-in width, in place of each placeholder; moving that width to the
configured one is left to the filter that follows.
-/

set_option autoImplicit false
set_option relaxedAutoImplicit false

namespace Responsive.Media

open Text

/-- The text with every placeholder of one tier expanded, if there is one. -/
def expandTier? (t : Tier) (css : List Char) : Option (List Char) :=
  if occurs t.placeholder.toList css then
    some (replaceAll t.placeholder.toList t.query.toList css)
  else none

/-- The text with every placeholder expanded, one tier after the other; `none` if it holds no
placeholder. -/
def expand? (css : List Char) : Option (List Char) :=
  Tier.all.foldl (fun expanded t ↦ (expandTier? t (expanded.getD css)).or expanded) none

/-- `expand?`, with the text itself where there is nothing to expand. -/
def expand (css : List Char) : List Char :=
  (expand? css).getD css

theorem expandTier?_of_not_occurs {t : Tier} {css : List Char}
    (h : occurs t.placeholder.toList css = false) : expandTier? t css = none := by
  simp [expandTier?, h]

end Responsive.Media

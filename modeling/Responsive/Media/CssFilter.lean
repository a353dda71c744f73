import Responsive.FilterChain
import Responsive.Media.Adjust
import Responsive.Media.Placeholder

/-!
# The filter of delivered stylesheets

Every stylesheet and page fragment is sent through a chain of filters: placeholders are expanded at
priority 9 and boundaries are moved at priority 10. A filter of priority 9 that is registered later
thus sees expanded queries that still have their built-in widths.
-/

set_option autoImplicit false
set_option relaxedAutoImplicit false

namespace Responsive

/-- A chain of filters over stylesheet text, in the context of a resolved pair. -/
abbrev CssFilter := FilterChain String Resolved

namespace CssFilter

/-- The priority at which placeholders are expanded. -/
def expandPriority : Int := 9

/-- The name under which the expansion of placeholders is registered. -/
def expandName : String := "expand-shortcuts"

/-- The name under which the moving of boundaries is registered. -/
def adjustName : String := "adjust-breakpoints"

/-- Expands placeholders. -/
def expandFilter : Filter String Resolved where
  priority := expandPriority
  name := expandName
  run _ css := .ofList (Media.expand css.toList)

/-- Moves boundaries to the resolved widths. -/
def adjustFilter : Filter String Resolved where
  priority := defaultPriority
  name := adjustName
  run r css := .ofList (Media.adjust css.toList r)

/-- The chain with both filters registered once more. -/
def addStandard (chain : CssFilter) : CssFilter :=
  (chain.add expandFilter).add adjustFilter

/-- The chain that holds the two filters and no other. -/
def standard : CssFilter :=
  addStandard ∅

/-- On the standard chain a text is first expanded and then adjusted. -/
theorem apply_standard (r : Resolved) (css : String) :
    standard.apply r css = .ofList (Media.adjust (Media.expand css.toList) r) := by
  simp [standard, addStandard, FilterChain.add, FilterChain.apply, expandFilter, adjustFilter,
    EmptyCollection.emptyCollection, expandPriority, defaultPriority]

end CssFilter

end Responsive

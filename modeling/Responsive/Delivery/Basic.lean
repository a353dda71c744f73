import Responsive.Block
import Responsive.Config
import Responsive.Delivery.Bundled
import Responsive.Delivery.Error
import Responsive.Media.CssFilter
import Responsive.Resolver

/-!
# Delivery of stylesheets and fragments

A page whose tiers are all at their built-in widths loads the responsive stylesheet as it is. For
any other page the filtered stylesheet is put inline behind the main one, and the stock one is
dropped. Fragments of blocks in the configured namespaces are filtered too.
-/

set_option autoImplicit false
set_option relaxedAutoImplicit false

namespace Responsive

/-- How the responsive stylesheet reaches a page. -/
inductive PageStyle
  /-- The stock stylesheet is loaded under its name. -/
  | stock (handle : String)
  /-- The text is put behind one stylesheet, and another one is dropped. -/
  | inlined (attachTo suppress css : String)
deriving DecidableEq, Repr

/-- What delivery needs to know of a site. -/
structure Delivery where
  filter : CssFilter := .standard
  responsiveCss : String := bundledStylesheet
  handles : DeliveryConfig := {}
  namespaces : List String := []

namespace Delivery

/-- The delivery of a configured site, which may have a stylesheet of its own. -/
def ofConfig {m : Type → Type} [Monad m] (fs : FileSystem m) (config : Config)
    (filter : CssFilter) : m (Except BreakpointError Delivery) := do
  let delivery : Delivery :=
    { filter, handles := config.delivery, namespaces := config.blocks.namespaces }
  match config.breakpoints.stylesheet with
  | none => return .ok delivery
  | some path =>
    match ← fs.readText path with
    | .ok responsiveCss => return .ok { delivery with responsiveCss }
    | .error e =>
      return .error
        { cause := .stylesheet e, context := some s!"Failed to read responsive stylesheet: {path}" }

/-- Sends a text through the filter. -/
def filterCss (d : Delivery) (r : Resolved) (css : String) : String :=
  d.filter.apply r css

/-- How the responsive stylesheet reaches a page with this pair. -/
def pageStyle (d : Delivery) (r : Resolved) : PageStyle :=
  if r.hasCustom then
    .inlined d.handles.styleHandle d.handles.responsiveHandle (d.filterCss r d.responsiveCss)
  else .stock d.handles.responsiveHandle

/-- Whether the markup of a block is filtered. -/
def concerns (d : Delivery) (block : Block) : Bool :=
  block.inNamespace d.namespaces

/-- The text that ends up on the page. -/
def pageCss (d : Delivery) : PageStyle → String
  | .stock _ => d.responsiveCss
  | .inlined _ _ css => css

end Delivery

/-- A page style as a value whose members stand in the order in which they are declared. -/
def PageStyle.toJson : PageStyle → Json
  | stock handle => .object [("mode", .text "external"), ("handle", .text handle)]
  | inlined attachTo suppress css =>
    .object
      [("mode", .text "inline"), ("attach_to", .text attachTo), ("suppress", .text suppress),
        ("css", .text css)]

end Responsive

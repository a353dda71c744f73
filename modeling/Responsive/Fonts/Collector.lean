import Responsive.Block
import Responsive.Config
import Responsive.FilterChain
import Responsive.Fonts.Family
import Responsive.Text.Slice

/-!
# Collecting the fonts of a page

While a page is rendered, the fonts that its blocks name are collected in the order in which they
are first met. Names that differ only in case or in the blanks around them are one font.
-/

set_option autoImplicit false
set_option relaxedAutoImplicit false

namespace Responsive.Fonts

open Text

/-- A chain of decisions whether a font, given by its name, is requested. -/
abbrev FontPredicate := FilterChain Bool String

/-- The font settings of a site. -/
structure Registry where
  config : FontsConfig := {}
  predicate : FontPredicate := ∅

/-- The fonts met so far, in order, and the lower-case names under which they count as met. -/
structure Collector where
  fonts : List String := []
  seen : List String := []
deriving DecidableEq, Repr, Inhabited

/-- A stylesheet of fonts and the name under which it is registered. -/
structure FontStylesheet where
  handle : String
  url : String
deriving DecidableEq, Repr

/-- How the name of a font attribute ends. -/
def attributeEnding : List Char :=
  ['f', 'o', 'n', 't', 'f', 'a', 'm', 'i', 'l', 'y']

/-- Whether an attribute names a font: its name has the ending, in any ASCII case. The ending is cut
off by its number of bytes, and a cut inside a character is none. -/
def isFontAttribute (name : String) : Bool :=
  let s := name.toList
  byteLength attributeEnding ≤ byteLength s &&
    match cutAtByte? (byteLength s - byteLength attributeEnding) s with
    | some (_, ending) => eqAscii ending attributeEnding
    | none => false

/-- Whether the markup mentions a font family at all. -/
def mentionsFamily (content : String) : Bool :=
  occurs ['f', 'a', 'm', 'i', 'l', 'y'] (lowerAscii content.toList)

namespace Collector

/-- Adds a font, unless it is blank, generic, known or refused; also tells whether it was added. -/
def offer (registry : Registry) (c : Collector) (name : String) : Bool × Collector :=
  let name := trimmed name
  if name.isEmpty || !isWebFont name then (false, c)
  else
    let key := lowercase name
    if c.seen.contains key then (false, c)
    else if !registry.predicate.apply name true then (false, c)
    else (true, { fonts := c.fonts ++ [name], seen := c.seen ++ [key] })

/-- The collector after a font was offered. -/
def register (registry : Registry) (c : Collector) (name : String) : Collector :=
  (c.offer registry name).2

/-- Whether registering a name adds a font. -/
def wouldAdd (registry : Registry) (c : Collector) (name : String) : Bool :=
  (c.offer registry name).1

/-- The fonts that the attributes of a block name, in the order of the attributes. -/
def attributeFonts (block : Block) : List String :=
  block.attributes.filterMap fun (name, value) ↦
    match value with
    | .text font => if isFontAttribute name then some font else none
    | _ => none

/-- Whether a rendered block is searched for fonts. -/
def concerns (registry : Registry) (block : Block) (content : Option String) : Bool :=
  match content with
  | none => false
  | some content =>
    registry.config.enabled && block.inNamespace registry.config.namespaces &&
      mentionsFamily content

/-- Adds the fonts of a rendered block. -/
def gather (registry : Registry) (c : Collector) (block : Block) (content : Option String) :
    Collector :=
  if concerns registry block content then (attributeFonts block).foldl (register registry) c else c

/-- The address of the stylesheet with all fonts, if there are any. -/
def url? (registry : Registry) (c : Collector) : Option String :=
  stylesheetUrl? c.fonts registry.config.locale

/-- The stylesheet with all fonts, if there are any. -/
def stylesheet? (registry : Registry) (c : Collector) : Option FontStylesheet :=
  (c.url? registry).map fun url ↦ { handle := registry.config.handle, url }

end Collector

end Responsive.Fonts

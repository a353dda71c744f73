import Responsive.Text.Blank
import Responsive.Text.Lowercase
import Responsive.Text.Occurrence

/-!
# Web font families

Which family names stand for fonts that a page has to request, and the address of the stylesheet
that requests them.
-/

set_option autoImplicit false
set_option relaxedAutoImplicit false

namespace Responsive.Fonts

open Text

/-- The families that every browser provides. -/
def genericFamilies : List String :=
  ["serif", "sans-serif", "monospace", "serif-alt"]

/-- Whether two texts are equal up to ASCII case. -/
def eqAscii (s t : List Char) : Bool :=
  lowerAscii s == lowerAscii t

/-- Whether a name is none of the generic families. -/
def isWebFont (name : String) : Bool :=
  !genericFamilies.any fun family ↦ eqAscii family.toList (trim name.toList)

/-- The character subset to request for a site locale. -/
def subset? (locale : String) : Option String :=
  if ["ru_RU", "bg_BG", "uk"].contains locale then some "cyrillic"
  else if locale == "he_IL" then some "hebrew"
  else if locale == "el" then some "greek"
  else if locale == "vi" then some "vietnamese"
  else if ["cs_CZ", "ro_RO", "pl_PL"].contains locale then some "latin-ext"
  else none

/-- The address of the font service. -/
def baseUrl : String := "https://fonts.googleapis.com/css"

/-- Every weight, upright and italic. -/
def weights : String :=
  "100,100italic,200,200italic,300,300italic,400,400italic,500,500italic," ++
    "600,600italic,700,700italic,800,800italic,900,900italic"

/-- What separates the families of a request: a bar in percent encoding. -/
def familySeparator : String := "%7C"

/-- A family in a request: its name, with a plus sign for every space, and all weights. -/
def familyQuery (name : String) : String :=
  .ofList (replaceAll [' '] ['+'] (trim name.toList)) ++ ":" ++ weights

/-- The address of one stylesheet for every weight of every family that has a name; `none` if no
family has. -/
def stylesheetUrl? (families : List String) (locale : Option String) : Option String :=
  let named := families.filter fun family ↦ !(trim family.toList).isEmpty
  if named.isEmpty then none
  else
    let subset := match locale.bind subset? with
      | none => ""
      | some subset => "&subset=" ++ subset
    some (baseUrl ++ "?family=" ++ familySeparator.intercalate (named.map familyQuery) ++
      "&display=swap" ++ subset)

end Responsive.Fonts

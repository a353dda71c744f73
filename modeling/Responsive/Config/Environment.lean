import Responsive.Json.Basic
import Responsive.Text.Lowercase
import Responsive.Text.Occurrence

/-!
# Configuration from the environment

Variables whose name begins with a certain word set values of the configuration, always texts.
Behind that word, double underscores separate the levels of a path, and the words of a name are
joined by single underscores, however they are separated in the variable. Upper and lower case do
not matter.
-/

set_option autoImplicit false
set_option relaxedAutoImplicit false

namespace Responsive.Config

open Text

/-- How the names of the variables begin, in lower case. -/
def variableLead : List Char := "rebreak__".toList

/-- The separator of levels in the names of variables. -/
def levelSeparator : List Char := ['_', '_']

/-- A character between words. -/
def isWordBreak (c : Char) : Bool :=
  c == '_' || c == '-' || c == ' '

/-- Whether a word ends between two characters: where letters and digits meet. -/
def breaksBetween (a b : Char) : Bool :=
  (a.isDigit && inRanges casedRanges b.toNat) || (inRanges casedRanges a.toNat && b.isDigit)

/-- The words of a text. -/
def words : List Char → List (List Char)
  | [] => [[]]
  | [c] => if isWordBreak c then [[], []] else [[c]]
  | c :: d :: s =>
    if isWordBreak c then [] :: words (d :: s)
    else if breaksBetween c d then [c] :: words (d :: s)
    else
      match words (d :: s) with
      | [] => [[c]]
      | word :: rest => (c :: word) :: rest

/-- A text with single underscores between its words. -/
def joinWords (s : List Char) : List Char :=
  ['_'].intercalate ((words s).filter (!·.isEmpty))

/-- The path that a variable sets, if its name begins with the word. -/
def pathOfVariable? (name : String) : Option String :=
  (stripLead? variableLead (lowercase name).toList).map fun rest ↦
    let levels := (replaceAll levelSeparator ['.'] rest).splitOn '.'
    .ofList (['.'].intercalate (levels.map joinWords))

/-- The values that the environment sets. -/
def ofEnvironment (environment : List (String × String)) : Entries Json :=
  .ofPairs (environment.filterMap fun (name, value) ↦
    (pathOfVariable? name).map fun path ↦ (path, .text value))

end Responsive.Config

import Responsive.Breakpoints
import Responsive.Media.Pass

/-!
# Moving the boundaries of a stylesheet

A stylesheet is written with the built-in width `b` of each tier, and with `b - 1` where the next
tier ends. For a customized tier the first becomes the configured value, written as it stands, and
the second the value less one, if the value begins with an integer. A boundary takes part only if
the text contains it right before a closing parenthesis, with one space after the colon or none.
-/

set_option autoImplicit false
set_option relaxedAutoImplicit false

namespace Responsive.Media

open Text

/-- The least number beyond the range of a configured width, that of signed 64-bit integers. -/
def widthLimit : Nat := Nat.pow 2 63

/-- The integer that a value begins with, after its leading blanks, if it is in range. -/
def leadingInteger? (value : List Char) : Option Nat :=
  let digits := (trim value).takeWhile Char.isDigit
  if digits.isEmpty || widthLimit ≤ digitsValue digits then none else some (digitsValue digits)

/-- Whether the text contains a width right before a closing parenthesis, in one of its two usual
spellings. -/
def mentions (css : List Char) (width : Nat) : Bool :=
  let closing := decimalNat width ++ unitWord ++ [')']
  occurs (widthWord ++ ' ' :: closing) css || occurs (widthWord ++ closing) css

/-- The boundary at the built-in width of a tier, moved to the value itself. -/
def upperBoundary (t : Tier) (value : List Char) : Boundary where
  old := decimalNat t.builtinWidth
  new := value

/-- The boundary below the built-in width of a tier, moved to the value less one. -/
def lowerBoundary? (t : Tier) (value : List Char) : Option Boundary :=
  (leadingInteger? value).map fun n : Nat ↦
    { old := decimalNat (t.builtinWidth - 1), new := decimal (n - 1) }

/-- The boundaries of a tier that the text mentions. -/
def tierBoundaries (css : List Char) (t : Tier) (value : List Char) : List Boundary :=
  (if mentions css t.builtinWidth then [upperBoundary t value] else []) ++
    (if mentions css (t.builtinWidth - 1) then (lowerBoundary? t value).toList else [])

/-- The boundaries that move: those of the customized tiers with a value. -/
def activeBoundaries (css : List Char) (r : Resolved) : List Boundary :=
  Tier.all.flatMap fun t ↦
    if r.custom.contains t && r.values.isSet t then tierBoundaries css t (r.get t).toList else []

/-- The text with its boundaries moved to the resolved values; `none` if it stays as it is, as it
always does when no tier is customized or both values are literally the built-in ones. -/
def adjust? (css : List Char) (r : Resolved) : Option (List Char) :=
  if !r.hasCustom || r.isBuiltin then none
  else
    match activeBoundaries css r with
    | [] => none
    | boundaries => retarget? boundaries css

/-- `adjust?`, with the text itself where nothing moves. -/
def adjust (css : List Char) (r : Resolved) : List Char :=
  (adjust? css r).getD css

end Responsive.Media

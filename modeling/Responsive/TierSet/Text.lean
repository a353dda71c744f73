import Responsive.Text.Blank
import Responsive.Text.Decimal
import Responsive.TierSet

/-!
# Tier sets as text

A set is written as the names of its tiers and, if it has unnamed bits, those bits in hexadecimal,
with bars between the parts. Reading allows blanks around each part, parts in any order, and a
hexadecimal part for any bits.
-/

set_option autoImplicit false
set_option relaxedAutoImplicit false

namespace Responsive

namespace Tier

/-- The name of a tier in the text of a set. -/
def flagName : Tier → String
  | tablet => "TABLET"
  | mobile => "MOBILE"

end Tier

namespace TierSet

open Text

/-- Why a text is no set of tiers. -/
inductive TextError
  | unknownName
  | badBits
  | emptyPart
deriving DecidableEq, Repr

/-- The text of an error. -/
def TextError.message : TextError → String
  | unknownName => "unrecognized named flag"
  | badBits => "invalid hex flag"
  | emptyPart => "encountered empty flag"

/-- The parts of the text of a set. -/
def parts (s : TierSet) : List String :=
  s.toList.map Tier.flagName ++
    if s.unnamed.val = 0 then []
    else [.ofList ('0' :: 'x' :: Nat.toDigits 16 (4 * s.unnamed.val))]

/-- The text of a set. -/
def text (s : TierSet) : String :=
  " | ".intercalate s.parts

/-- The value of a hexadecimal digit in either case. -/
def hexDigit? (c : Char) : Option Nat :=
  if c.isDigit then some (c.toNat - 48)
  else if 'a' ≤ c.toLower ∧ c.toLower ≤ 'f' then some (c.toLower.toNat - 87)
  else none

/-- The value of hexadecimal digits, with an optional plus sign, that fits a byte. -/
def byte? (s : List Char) : Option Nat :=
  let digits := match s with
    | '+' :: s => s
    | s => s
  if digits.isEmpty then none
  else
    match digits.mapM hexDigit? with
    | none => none
    | some values =>
      let n := values.foldl (fun n d ↦ 16 * n + d) 0
      if n < 256 then some n else none

/-- Reads one part, already free of blanks around it. -/
def readPart (part : List Char) : Except TextError TierSet :=
  match part with
  | [] => .error .emptyPart
  | '0' :: 'x' :: digits =>
    match byte? digits with
    | some n => .ok (ofBits n)
    | none => .error .badBits
  | part =>
    match Tier.all.find? (·.flagName.toList == part) with
    | some t => .ok (single t)
    | none => .error .unknownName

/-- Reads a set; a blank text is the empty set. -/
def read (s : String) : Except TextError TierSet :=
  match trim s.toList with
  | [] => .ok ∅
  | s => (s.splitOn '|').foldlM (fun set part ↦ (readPart (trim part)).map set.union) ∅

end TierSet

end Responsive

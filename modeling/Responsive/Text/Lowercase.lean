import Responsive.Text.Lowercase.Table

/-!
# Lower case

Full lower-casing of Unicode text. Every character has its own mapping except two: the dotted
capital `İ` becomes an `i` with a combining dot, and a capital sigma at the end of a word takes the
final form.
-/

set_option autoImplicit false
set_option relaxedAutoImplicit false

namespace Responsive.Text

/-- The lower case of a character on its own, if it is one other character. -/
def lowerCode? (n : Nat) : Option Nat :=
  (caseRuns.find? fun run ↦ run.first ≤ n && n ≤ run.last && (n - run.first) % run.step == 0).map
    fun run ↦ ((n : Int) + run.offset).toNat

/-- The lower case of a character that is not a sigma in final position. -/
def lowerChar (c : Char) : List Char :=
  if c.toNat < 0x80 then [c.toLower]
  else if c.toNat = 0x130 then ['i', Char.ofNat 0x307]
  else [((lowerCode? c.toNat).map Char.ofNat).getD c]

/-- Whether the first character that is no mark is a letter with a case. -/
def startsCased (s : List Char) : Bool :=
  match s.dropWhile fun c ↦ inRanges caseIgnorableRanges c.toNat with
  | [] => false
  | c :: _ => inRanges casedRanges c.toNat

/-- The lower case of a text, given the characters before it in reverse. -/
def lowerFrom (before : List Char) : List Char → List Char
  | [] => []
  | c :: s =>
    let lowered :=
      if c.toNat = 0x3A3 ∧ startsCased before ∧ !startsCased s then [Char.ofNat 0x3C2]
      else lowerChar c
    lowered ++ lowerFrom (c :: before) s

/-- The lower case of a text. -/
def lowercase (s : String) : String :=
  .ofList (lowerFrom [] s.toList)

/-- The text with its ASCII capitals in lower case. -/
def lowerAscii (s : List Char) : List Char :=
  s.map Char.toLower

end Responsive.Text

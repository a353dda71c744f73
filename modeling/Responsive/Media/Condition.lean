import Responsive.Text.Alphanumeric
import Responsive.Text.Blank
import Responsive.Text.Decimal
import Responsive.Text.Occurrence

/-!
# Width conditions

A width condition is `width:`, any blanks, a run of digits of any script and `px`. `substitute`
walks the text of a media query and gives every condition whose number is the old side of a boundary
its new text; all else is copied. The new text is never looked at again, so one boundary cannot feed
another.

* `text_append_of_read?_eq_some`: what a reader of conditions takes off a text is the condition's
  own spelling.
* `substitute_nil`: with no boundary nothing moves.
-/

set_option autoImplicit false
set_option relaxedAutoImplicit false

namespace Responsive.Media

open Text

/-- One pixel width and the text that takes its place. -/
structure Boundary where
  old : List Char
  new : List Char
deriving DecidableEq, Repr

/-- A width condition as spelled: the blanks after the colon, and the digits. -/
structure Condition where
  gap : List Char
  digits : List Char
deriving DecidableEq, Repr

/-- What a width condition begins with. -/
def widthWord : List Char := ['w', 'i', 'd', 't', 'h', ':']

/-- What a width condition ends with. -/
def unitWord : List Char := ['p', 'x']

namespace Condition

/-- The spelling of a condition. -/
def text (c : Condition) : List Char :=
  widthWord ++ c.gap ++ c.digits ++ unitWord

/-- Reads a condition off the front of a text. The run of digits is as long as it can be and not
empty. -/
def read? (s : List Char) : Option (Condition × List Char) :=
  match stripLead? widthWord s with
  | none => none
  | some s =>
    let digits := (s.dropWhile isBlank).takeWhile isDecimalDigit
    match digits, stripLead? unitWord ((s.dropWhile isBlank).dropWhile isDecimalDigit) with
    | _ :: _, some rest => some (⟨s.takeWhile isBlank, digits⟩, rest)
    | _, _ => none

theorem text_append_of_read?_eq_some {s rest : List Char} {c : Condition}
    (h : read? s = some (c, rest)) : s = c.text ++ rest := by
  simp only [read?] at h
  split at h
  · contradiction
  next s' hs =>
    split at h
    next hunit =>
      obtain ⟨rfl, rfl⟩ := by simpa using h
      rw [stripLead?_eq_some_iff.mp hs, text]
      have hrest := stripLead?_eq_some_iff.mp hunit
      simp only [List.append_assoc, List.append_cancel_left_eq]
      rw [← hrest, List.takeWhile_append_dropWhile, List.takeWhile_append_dropWhile]
    · contradiction

theorem length_lt_of_read?_eq_some {s rest : List Char} {c : Condition}
    (h : read? s = some (c, rest)) : rest.length < s.length := by
  rw [text_append_of_read?_eq_some h]
  simp [text, widthWord]
  omega

end Condition

/-- The new spelling of a condition: no blank is kept after the colon. -/
def Boundary.replacement (b : Boundary) : List Char :=
  widthWord ++ b.new ++ unitWord

/-- The first boundary whose old side is the number of the condition. -/
def Condition.boundary? (c : Condition) (boundaries : List Boundary) : Option Boundary :=
  boundaries.find? (·.old == c.digits)

/-- Gives every condition on a boundary its new spelling. -/
def substitute (boundaries : List Boundary) : List Char → List Char
  | [] => []
  | c :: s =>
    match _h : Condition.read? (c :: s) with
    | some (condition, rest) =>
      match condition.boundary? boundaries with
      | some b => b.replacement ++ substitute boundaries rest
      | none => condition.text ++ substitute boundaries rest
    | none => c :: substitute boundaries s
termination_by s => s.length
decreasing_by
  all_goals first
    | exact Condition.length_lt_of_read?_eq_some _h
    | simp

theorem substitute_nil (s : List Char) : substitute [] s = s := by
  fun_induction substitute [] s with
  | case1 => rfl
  | case2 c s condition rest hread b hb ih => simp [Condition.boundary?] at hb
  | case3 c s condition rest hread hb ih =>
    rw [ih, Condition.text_append_of_read?_eq_some hread]
  | case4 c s hread ih => rw [ih]

end Responsive.Media

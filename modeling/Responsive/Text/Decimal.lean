/-!
# Decimal text of integers

Writing and reading integers in base ten, over ASCII digits.
-/

set_option autoImplicit false
set_option relaxedAutoImplicit false

namespace Responsive.Text

/-- The decimal digits of `n`, most significant first. -/
def decimalNat (n : Nat) : List Char :=
  Nat.toDigits 10 n

/-- The decimal text of an integer, with a minus sign if it is negative. -/
def decimal : Int → List Char
  | .ofNat n => decimalNat n
  | .negSucc n => '-' :: decimalNat (n + 1)

/-- The value of a run of decimal digits. -/
def digitsValue (digits : List Char) : Nat :=
  digits.foldl (fun n c ↦ 10 * n + (c.toNat - 48)) 0

/-- Reads a nonempty run of ASCII digits and nothing else. -/
def readNat? (s : List Char) : Option Nat :=
  if s.isEmpty || !s.all Char.isDigit then none else some (digitsValue s)

end Responsive.Text

import Responsive.Binary64.Basic
import Responsive.Text.Decimal
import Responsive.Text.Lowercase

/-!
# Floats from their texts

A float is written as decimal digits with a point among, before or behind them, an exponent, a sign,
or by the names of the values that have no digits. `ofText?` gives the float nearest to such a text.

* `ofDigits_zero`: digits that make zero give a zero, whatever the exponent.
-/

set_option autoImplicit false
set_option relaxedAutoImplicit false

namespace Responsive.Binary64

open Text

/-- The exponents between which a float can differ from zero and from infinity, for a number with at
most so many digits. -/
def exponentBound (digits : Nat) : Nat := 400 + digits

/-- The float nearest to `digits * 10 ^ exponent`. -/
def ofDigits (negative : Bool) (digits : List Char) (exponent : Int) : Binary64 :=
  let n := digitsValue digits
  if n = 0 ∨ exponent < -exponentBound digits.length then finite negative 0 minExponent
  else if (exponentBound digits.length : Int) < exponent then infinite negative
  else ofDecimal negative n exponent

/-- Digits that make zero give a zero, whatever the exponent. -/
theorem ofDigits_zero {negative : Bool} {digits : List Char} {exponent : Int}
    (h : digitsValue digits = 0) :
    ofDigits negative digits exponent = finite negative 0 minExponent := by
  simp [ofDigits, h]

/-- The sign of a number, and the number behind it. -/
def signed (s : List Char) : Bool × List Char :=
  match s with
  | '-' :: s => (true, s)
  | '+' :: s => (false, s)
  | s => (false, s)

/-- The value of an exponent with its mark, `0` if there is none. -/
def exponentOf? (s : List Char) : Option Int :=
  match s with
  | [] => some 0
  | mark :: s =>
    let (negative, digits) := signed s
    if mark == 'e' || mark == 'E' then
      (readNat? digits).map fun n ↦ if negative then -(n : Int) else n
    else none

/-- The float of a text without a sign: a name, or digits with at most one point among them and
perhaps an exponent. -/
def ofUnsigned? (negative : Bool) (s : List Char) : Option Binary64 :=
  let word := String.ofList (lowerAscii s)
  if word == "inf" || word == "infinity" then some (infinite negative)
  else if word == "nan" then some nan
  else
    let whole := s.takeWhile Char.isDigit
    let (fraction, rest) := match s.dropWhile Char.isDigit with
      | '.' :: s => (s.takeWhile Char.isDigit, s.dropWhile Char.isDigit)
      | s => ([], s)
    if (whole ++ fraction).isEmpty then none
    else
      (exponentOf? rest).map fun exponent ↦
        ofDigits negative (whole ++ fraction) (exponent - fraction.length)

/-- The float of a text. -/
def ofText? (s : List Char) : Option Binary64 :=
  let (negative, s) := signed s
  ofUnsigned? negative s

end Responsive.Binary64

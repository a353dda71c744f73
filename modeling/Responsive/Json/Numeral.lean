import Responsive.Json.Basic
import Responsive.Text.Decimal

/-!
# Numerals of JSON

A numeral is a sign, a whole part without needless zeros, and optionally a fraction and an exponent.
A numeral without fraction and exponent that fits 64 bits, signed or unsigned, is an integer; every
other one is a float, minus zero too.

The digits of a float are collected into one 64-bit word, and those that do not fit are dropped. The
word is then rounded to a float and scaled by a power of ten in at most a few rounded steps, so the
result can be off by a unit in the last place. A numeral beyond the floats has no value.
-/

set_option autoImplicit false
set_option relaxedAutoImplicit false

namespace Responsive.Json

open Text

/-- The parts of a numeral; an absent fraction is empty. -/
structure Numeral where
  negative : Bool
  whole : List Char
  fraction : List Char
  /-- Whether the exponent is negative, and its digits. -/
  exponent : Option (Bool × List Char)
deriving DecidableEq, Repr

namespace Numeral

/-- The least number that needs more than 64 bits. -/
def wordLimit : Nat := Nat.pow 2 64

/-- The digits at the front of a text, if there are any, and the rest. -/
def digits? (s : List Char) : Option (List Char × List Char) :=
  match s.takeWhile Char.isDigit with
  | [] => none
  | digits => some (digits, s.dropWhile Char.isDigit)

/-- A whole part: one digit, or several that do not begin with a zero. -/
def whole? (s : List Char) : Option (List Char × List Char) :=
  match digits? s with
  | some ('0' :: _ :: _, _) => none
  | found => found

/-- A point and the digits behind it, if there is a point. -/
def fraction? : List Char → Option (List Char × List Char)
  | '.' :: s => digits? s
  | s => some ([], s)

/-- The sign and the digits of an exponent. -/
def signedDigits? : List Char → Option ((Bool × List Char) × List Char)
  | '+' :: s => (digits? s).map fun found ↦ ((false, found.1), found.2)
  | '-' :: s => (digits? s).map fun found ↦ ((true, found.1), found.2)
  | s => (digits? s).map fun found ↦ ((false, found.1), found.2)

/-- An exponent, if there is one. -/
def exponent? (s : List Char) : Option (Option (Bool × List Char) × List Char) :=
  match s with
  | 'e' :: s => (signedDigits? s).map fun found ↦ (some found.1, found.2)
  | 'E' :: s => (signedDigits? s).map fun found ↦ (some found.1, found.2)
  | s => some (none, s)

/-- Reads a numeral behind its sign. -/
def unsigned? (negative : Bool) (s : List Char) : Option (Numeral × List Char) := do
  let (whole, s) ← whole? s
  let (fraction, s) ← fraction? s
  let (exponent, s) ← exponent? s
  some (⟨negative, whole, fraction, exponent⟩, s)

/-- Reads a numeral off the front of a text. -/
def read? : List Char → Option (Numeral × List Char)
  | '-' :: s => unsigned? true s
  | s => unsigned? false s

/-- Appends digits to a word as long as the word fits 64 bits; also returns the digits left over. -/
def collect (word : Nat) : List Char → Nat × List Char
  | [] => (word, [])
  | c :: digits =>
    let next := 10 * word + (c.toNat - 48)
    if wordLimit ≤ next then (word, c :: digits) else collect next digits

/-- The largest power of ten among the floats, as an exponent. -/
def maxPower : Nat := 308

/-- A float times a power of ten, in rounded steps; `none` beyond the floats. -/
def scaled? (x : Binary64) (e : Int) : Option Binary64 :=
  if e.natAbs ≤ maxPower then
    if 0 ≤ e then
      let y := x.mul (.powerOfTen e.toNat)
      if y.isFinite then some y else none
    else some (x.div (.powerOfTen (-e).toNat))
  else if x.isZero then some x
  else if 0 ≤ e then none
  else scaled? (x.div (.powerOfTen maxPower)) (e + maxPower)
termination_by e.natAbs
decreasing_by
  simp only [maxPower] at *
  omega

/-- The bound of exponents: a sum of exponents stays within 32 bits. -/
def exponentLimit : Nat := Nat.pow 2 31

/-- A sum of exponents, kept within 32 bits. -/
def clampExponent (e : Int) : Int :=
  max (-exponentLimit) (min e (exponentLimit - 1))

/-- The value as a float. -/
def float? (n : Numeral) (word : Nat) (shift : Int) : Option Binary64 := do
  let magnitude ←
    match n.exponent with
    | none => scaled? (.ofNat word) shift
    | some (below, digits) =>
      let e := digitsValue digits
      if exponentLimit ≤ e then
        if word ≠ 0 ∧ !below then none else some (.ofNat 0)
      else scaled? (.ofNat word) (clampExponent (if below then shift - e else shift + e))
  some (if n.negative then magnitude.neg else magnitude)

/-- The value of a numeral; `none` beyond the floats. -/
def value? (n : Numeral) : Option Number :=
  let (word, dropped) := collect 0 n.whole
  if dropped.isEmpty && n.fraction.isEmpty && n.exponent.isNone then
    if !n.negative then some (.int word)
    else if word = 0 ∨ Nat.pow 2 63 < word then some (.float (Binary64.ofNat word).neg)
    else some (.int (-word))
  else
    let (word, rest) := collect word n.fraction
    let shift : Int := dropped.length - (n.fraction.length - rest.length : Int)
    (n.float? word shift).map .float

end Numeral

end Responsive.Json

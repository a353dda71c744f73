import Responsive.Binary64.Basic
import Responsive.Text.Decimal

/-!
# Shortest decimals of floats

The shortest decimal that reads back as a given float: the one of fewest digits among all decimals
that round to it, and of those the one nearest to it. For each number of digits only the two
neighbours of the value on that decimal grid are tried, because a grid that meets the interval of
decimals that round to the value meets it in one of them. All comparisons are exact.

`positional` and `scientific` lay the digits out.
-/

set_option autoImplicit false
set_option relaxedAutoImplicit false

namespace Responsive.Binary64

open Text

/-- A decimal magnitude `0.d₁d₂… * 10 ^ point`. -/
structure Decimal where
  digits : List Char
  point : Int
deriving DecidableEq, Repr

/-- How a value exactly between two equally short decimals is settled. -/
inductive Tie
  | even
  | up
deriving DecidableEq, Repr

/-- The decimals that round to a value: its exact magnitude and the two ends of its interval, as
numerators over `2 ^ shift` or as multiples of `2 ^ shift`. -/
structure Interval where
  value : Nat
  low : Nat
  high : Nat
  shift : Int
  /-- The ends themselves round to the value. -/
  closed : Bool

/-- The interval of the magnitude `m * 2 ^ e`. Just above a power of two the lower neighbour is only
half as far as the upper one. -/
def interval (m : Nat) (e : Int) : Interval where
  value := 4 * m
  low :=
    if m = Nat.pow 2 (precision - 1) ∧ minExponent < e then 4 * m - 1 else 4 * m - 2
  high := 4 * m + 2
  shift := e - 2
  closed := m % 2 == 0

/-- The decimal exponent of a positive quotient: the least `k` with `num / den < 10 ^ k`, searched
upward from a lower bound. -/
def pointFrom (num den : Nat) : Nat → Int → Int
  | 0, k => k
  | fuel + 1, k =>
    if num * Nat.pow 10 (-k).toNat < den * Nat.pow 10 k.toNat then k
    else pointFrom num den fuel (k + 1)

/-- A bound or the value of the interval, as a numerator over `unit`. -/
def Interval.scaled (i : Interval) (power : Int) (n : Nat) : Nat :=
  n * Nat.pow 2 i.shift.toNat * Nat.pow 10 (-power).toNat

/-- The numerator of `10 ^ power`. -/
def Interval.unit (i : Interval) (power : Int) : Nat :=
  Nat.pow 2 (-i.shift).toNat * Nat.pow 10 power.toNat

/-- Whether `n * 10 ^ power` rounds to the value. -/
def Interval.holds (i : Interval) (power : Int) (n : Nat) : Bool :=
  let place := n * i.unit power
  if i.closed then decide (i.scaled power i.low ≤ place) && decide (place ≤ i.scaled power i.high)
  else decide (i.scaled power i.low < place) && decide (place < i.scaled power i.high)

/-- The multiple of `10 ^ power` next to the value that rounds to it, if there is one. -/
def nearest? (tie : Tie) (i : Interval) (power : Int) : Option Nat :=
  let unit := i.unit power
  let q := i.scaled power i.value / unit
  let r := i.scaled power i.value % unit
  let higher :=
    2 * r > unit || (2 * r == unit && (match tie with | .even => q % 2 == 1 | .up => true))
  match i.holds power q, i.holds power (q + 1) with
  | true, true => some (if higher then q + 1 else q)
  | true, false => some q
  | false, true => some (q + 1)
  | false, false => none

/-- Tries grids of `17 - fuel + 1`, … digits in turn. -/
def firstHit (tie : Tie) (i : Interval) (point : Int) : Nat → Nat × Int
  | 0 => (0, 0)
  | fuel + 1 =>
    let power := point - (17 - fuel : Int)
    match nearest? tie i power with
    | some n => (n, power)
    | none => firstHit tie i point fuel

/-- The shortest decimal of the magnitude `m * 2 ^ e`. -/
def shortest (tie : Tie) (m : Nat) (e : Int) : Decimal :=
  if m = 0 then ⟨['0'], 1⟩
  else
    let (num, den) := scale m 1 (-e)
    let start := ((num.log2 : Int) - den.log2 - 1) * 30103 / 100000 - 1
    let point := pointFrom num den 8 start
    let (n, power) := firstHit tie (interval m e) point 17
    let digits := decimalNat n
    ⟨(digits.reverse.dropWhile (· == '0')).reverse, digits.length + power⟩

/-- Plain decimal notation, with `tail` behind a number that has no fraction. -/
def Decimal.positional (d : Decimal) (tail : List Char) : List Char :=
  if d.point ≤ 0 then '0' :: '.' :: List.replicate (-d.point).toNat '0' ++ d.digits
  else
    let whole := d.digits.take d.point.toNat
    let fraction := d.digits.drop d.point.toNat
    whole ++ List.replicate (d.point.toNat - whole.length) '0' ++
      (if fraction.isEmpty then tail else '.' :: fraction)

/-- One digit before the point, the rest behind it, and a signed power of ten. -/
def Decimal.scientific (d : Decimal) : List Char :=
  let fraction := d.digits.drop 1
  let power := d.point - 1
  d.digits.take 1 ++ (if fraction.isEmpty then [] else '.' :: fraction) ++
    'e' :: (if 0 ≤ power then ['+'] else []) ++ decimal power

/-- The sign of a number as a text. -/
def signText (negative : Bool) : List Char :=
  if negative then ['-'] else []

/-- Positional at every magnitude, with no fraction unless there is one. -/
def plainText : Binary64 → List Char
  | finite s m e => signText s ++ (shortest .up m e).positional []
  | infinite s => signText s ++ ['i', 'n', 'f']
  | nan => ['N', 'a', 'N']

/-- Positional from `10 ^ -5` up to `10 ^ 16` with at least one digit behind the point, and
scientific outside that range. -/
def numeralText : Binary64 → List Char
  | finite s m e =>
    let d := shortest .even m e
    signText s ++ if -5 < d.point ∧ d.point ≤ 16 then d.positional ['.', '0'] else d.scientific
  | _ => ['n', 'u', 'l', 'l']

end Responsive.Binary64

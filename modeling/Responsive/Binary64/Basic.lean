/-!
# 64-bit binary floats

The values of the 64-bit binary format as exact numbers, with the few operations that reading a
decimal needs. A finite value is a mantissa below `2 ^ 53` times a power of two from `2 ^ -1074` up,
and `ofRatio` rounds a quotient of naturals to the nearest of them, a tie to the even mantissa.

* `roundDiv_mul`: an exact quotient is not changed by rounding.
-/

set_option autoImplicit false
set_option relaxedAutoImplicit false

namespace Responsive

/-- A 64-bit float: a signed `mantissa * 2 ^ exponent`, a signed infinity, or no number. -/
inductive Binary64
  | finite (negative : Bool) (mantissa : Nat) (exponent : Int)
  | infinite (negative : Bool)
  | nan
deriving DecidableEq, Repr, Inhabited

namespace Binary64

/-- The exponent of the smallest positive value. -/
def minExponent : Int := -1074

/-- The exponent of the largest finite values. -/
def maxExponent : Int := 971

/-- The number of bits in a mantissa. -/
def precision : Nat := 53

/-- The integer nearest to a quotient; of two that are equally near, the even one. -/
def roundDiv (num den : Nat) : Nat :=
  let q := num / den
  let r := num % den
  if 2 * r < den ∨ (2 * r = den ∧ q % 2 = 0) then q else q + 1

theorem roundDiv_mul (q : Nat) {den : Nat} (h : 0 < den) : roundDiv (q * den) den = q := by
  simp [roundDiv, h]

/-- Numerator and denominator of `num / den / 2 ^ e`. -/
def scale (num den : Nat) (e : Int) : Nat × Nat :=
  (num * Nat.pow 2 (-e).toNat, den * Nat.pow 2 e.toNat)

/-- The float nearest to `num / den`, a tie going to the even mantissa; too large a magnitude
becomes infinite. The first guess of the exponent comes from the lengths of both numbers and is at
most one too small. -/
def ofRatio (negative : Bool) (num den : Nat) : Binary64 :=
  if num = 0 then finite negative 0 minExponent
  else
    let guess := max ((num.log2 : Int) - den.log2 - precision) minExponent
    let (n, d) := scale num den guess
    let e := if Nat.pow 2 precision ≤ n / d then guess + 1 else guess
    let (n, d) := scale num den e
    let m := roundDiv n d
    let (m, e) :=
      if m = Nat.pow 2 precision then (Nat.pow 2 (precision - 1), e + 1) else (m, e)
    if maxExponent < e then infinite negative else finite negative m e

/-- The float nearest to a natural number. -/
def ofNat (n : Nat) : Binary64 :=
  ofRatio false n 1

/-- The float nearest to an integer. -/
def ofInt : Int → Binary64
  | .ofNat n => ofRatio false n 1
  | .negSucc n => ofRatio true (n + 1) 1

/-- The value with its sign turned. -/
def neg : Binary64 → Binary64
  | finite s m e => finite (!s) m e
  | infinite s => infinite (!s)
  | nan => nan

/-- Either zero. -/
def isZero : Binary64 → Bool
  | finite _ m _ => m == 0
  | _ => false

/-- Neither infinite nor the value that is no number. -/
def isFinite : Binary64 → Bool
  | finite .. => true
  | _ => false

/-- The rounded product of two finite values. -/
def mul : Binary64 → Binary64 → Binary64
  | finite s m e, finite s' m' e' =>
    let (n, d) := scale (m * m') 1 (-(e + e'))
    ofRatio (s != s') n d
  | _, _ => nan

/-- The rounded quotient of two finite values, the second of which is not zero. -/
def div : Binary64 → Binary64 → Binary64
  | finite s m e, finite s' m' e' =>
    let (n, d) := scale m m' (e' - e)
    ofRatio (s != s') n d
  | _, _ => nan

/-- The float nearest to a power of ten. -/
def powerOfTen (k : Nat) : Binary64 :=
  ofNat (Nat.pow 10 k)

/-- The float nearest to `digits * 10 ^ exponent`. -/
def ofDecimal (negative : Bool) (digits : Nat) (exponent : Int) : Binary64 :=
  ofRatio negative (digits * Nat.pow 10 exponent.toNat) (Nat.pow 10 (-exponent).toNat)

end Binary64

end Responsive

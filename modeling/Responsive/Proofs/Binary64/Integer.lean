import Responsive.Proofs.Json.Float

/-!
# Large integers as floats

From `2 ^ 63` up to `2 ^ 64` the floats are the multiples of 2048, so an integer there is rounded to
one of them. The text of the float is its shortest decimal: among the decimals that round to the
float, one on the coarsest grid, and on this grid the nearest. The multiples of 1000 are always fine
enough. Those of 10000 are so far apart that at most one of them has the float, and so it is the
shortest decimal whenever there is one.

* `nearest?_eq_none_iff`, `exists_firstHit_eq`: the search finds the coarsest grid with a decimal.
* `positional_trimmed`: in plain notation, the zeros cut off the digits come back.
* `exists_plainText_ofNat_eq`: the text of the float of a large integer.
* `plainText_ofNat_eq_iff`: which large integers are the text of their float.
-/

set_option autoImplicit false
set_option relaxedAutoImplicit false

namespace Responsive.Binary64

open Json Text

/-! ### Grids of decimals -/

section Grid

variable {tie : Tie} {i : Interval} {power : Int} {n : Nat}

theorem holds_iff : i.holds power n = true ↔
    i.scaled power i.low < n * i.unit power ∧ n * i.unit power < i.scaled power i.high ∨
      i.closed = true ∧ i.scaled power i.low ≤ n * i.unit power ∧
        n * i.unit power ≤ i.scaled power i.high := by
  rw [Interval.holds]
  split
  next hclosed =>
    rw [Bool.and_eq_true, decide_eq_true_eq, decide_eq_true_eq, and_iff_right hclosed]
    omega
  next hopen =>
    rw [Bool.and_eq_true, decide_eq_true_eq, decide_eq_true_eq]
    exact (or_iff_left fun h ↦ hopen h.1).symm

/-- What is between the value and a decimal that rounds to it rounds to it too. -/
theorem holds_of_between {m : Nat} (hlow : i.scaled power i.low < i.scaled power i.value)
    (hhigh : i.scaled power i.value < i.scaled power i.high) (hn : i.holds power n = true)
    (h : n * i.unit power ≤ m * i.unit power ∧ m * i.unit power ≤ i.scaled power i.value ∨
      i.scaled power i.value < m * i.unit power ∧ m * i.unit power ≤ n * i.unit power) :
    i.holds power m = true := by
  rw [holds_iff] at hn ⊢
  rcases hn with hstrict | ⟨hclosed, hweak⟩
  · left
    omega
  · right
    refine ⟨hclosed, ?_⟩
    omega

theorem nearest?_eq_none_iff_holds : nearest? tie i power = none ↔
    i.holds power (i.scaled power i.value / i.unit power) = false ∧
      i.holds power (i.scaled power i.value / i.unit power + 1) = false := by
  unfold nearest?
  dsimp only
  cases i.holds power (i.scaled power i.value / i.unit power) <;>
    cases i.holds power (i.scaled power i.value / i.unit power + 1) <;> simp

/-- A grid that has a decimal for the value has one right next to it. -/
theorem nearest?_eq_none_iff (hlow : i.low < i.value) (hhigh : i.value < i.high) :
    nearest? tie i power = none ↔ ∀ n, i.holds power n = false := by
  have hpow (b n : Nat) (hb : 0 < b) : 0 < Nat.pow b n := Nat.pow_pos hb
  have hunit : 0 < i.unit power := Nat.mul_pos (hpow 2 _ (by decide)) (hpow 10 _ (by decide))
  have hscaled {a b : Nat} (h : a < b) : i.scaled power a < i.scaled power b :=
    Nat.mul_lt_mul_of_pos_right (Nat.mul_lt_mul_of_pos_right h (hpow 2 _ (by decide)))
      (hpow 10 _ (by decide))
  have hdown := Nat.div_mul_le_self (i.scaled power i.value) (i.unit power)
  have hup := Nat.lt_mul_div_succ (i.scaled power i.value) hunit
  rw [Nat.mul_comm] at hup
  rw [nearest?_eq_none_iff_holds]
  generalize i.scaled power i.value / i.unit power = q at hdown hup
  constructor
  · rintro ⟨hlower, hupper⟩ n
    refine Bool.eq_false_iff.mpr fun hn ↦ ?_
    by_cases hle : n ≤ q
    · have hmul := Nat.mul_le_mul_right (i.unit power) hle
      exact Bool.eq_false_iff.mp hlower
        (holds_of_between (hscaled hlow) (hscaled hhigh) hn (.inl ⟨hmul, hdown⟩))
    · have hmul := Nat.mul_le_mul_right (i.unit power) (Nat.lt_of_not_le hle)
      exact Bool.eq_false_iff.mp hupper
        (holds_of_between (hscaled hlow) (hscaled hhigh) hn (.inr ⟨hup, hmul⟩))
  · intro h
    exact ⟨h _, h _⟩

/-- The first hit is on the coarsest grid that has one. -/
theorem exists_firstHit_eq (point : Int) (fuel : Nat) (hfirst : point - 17 ≤ power)
    (hlast : power < point - 17 + fuel) (hhit : nearest? tie i power ≠ none) :
    ∃ k p, firstHit tie i point fuel = (k, p) ∧ nearest? tie i p = some k ∧ power ≤ p ∧
      ∀ coarser, p < coarser → coarser < point - 17 + fuel → nearest? tie i coarser = none := by
  induction fuel with
  | zero => omega
  | succ fuel ih =>
    rw [firstHit]
    cases htop : nearest? tie i (point - (17 - (fuel : Int))) with
    | some k => exact ⟨k, _, rfl, htop, by omega, fun coarser _ _ ↦ by omega⟩
    | none =>
      have hne : power ≠ point - (17 - (fuel : Int)) := by
        rintro rfl
        exact hhit htop
      obtain ⟨k, p, heq, hnearest, hle, hcoarser⟩ := ih (by omega)
      refine ⟨k, p, heq, hnearest, hle, fun coarser hp hbound ↦ ?_⟩
      by_cases hsame : coarser = point - (17 - (fuel : Int))
      · rw [hsame, htop]
      · exact hcoarser coarser hp (by omega)

end Grid

/-! ### Plain notation of integers -/

theorem decimalNat_mul_pow {k : Nat} (hk : k ≠ 0) (p : Nat) :
    decimalNat (k * Nat.pow 10 p) = decimalNat k ++ List.replicate p '0' := by
  induction p with
  | zero => simp
  | succ p ih =>
    have hpos : 0 < k * Nat.pow 10 p :=
      Nat.mul_pos (Nat.pos_of_ne_zero hk) (Nat.pow_pos (by decide))
    have hsucc : k * Nat.pow 10 (p + 1) = 10 * (k * Nat.pow 10 p) := by
      change k * (Nat.pow 10 p * 10) = _
      rw [← Nat.mul_assoc, Nat.mul_comm]
    have hdiv : 10 * (k * Nat.pow 10 p) / 10 = k * Nat.pow 10 p := by omega
    have hmod : 10 * (k * Nat.pow 10 p) % 10 = 0 := by omega
    rw [hsucc, Numeral.decimalNat_of_le (by omega), hdiv, hmod, ih, List.append_assoc,
      List.replicate_succ']
    rfl

/-- The digits of a number without the zeros at its end, laid out with these zeros and more behind
them. -/
theorem positional_trimmed {k : Nat} (hk : k ≠ 0) (p : Nat) :
    Decimal.positional ⟨((decimalNat k).reverse.dropWhile (· == '0')).reverse,
      (decimalNat k).length + p⟩ [] = decimalNat (k * Nat.pow 10 p) := by
  obtain ⟨digits, zeros, hdigits, hsplit⟩ : ∃ digits zeros,
      ((decimalNat k).reverse.dropWhile (· == '0')).reverse = digits ∧
        decimalNat k = digits ++ List.replicate zeros '0' := by
    refine ⟨_, ((decimalNat k).reverse.takeWhile (· == '0')).length, rfl, ?_⟩
    have hzeros : (decimalNat k).reverse.takeWhile (· == '0') =
        List.replicate ((decimalNat k).reverse.takeWhile (· == '0')).length '0' := by
      refine List.eq_replicate_iff.mpr ⟨rfl, fun c hc ↦ ?_⟩
      simpa using List.mem_takeWhile_imp hc
    rw [← List.reverse_replicate, ← hzeros, ← List.reverse_append,
      List.takeWhile_append_dropWhile, List.reverse_reverse]
  have hlength : (decimalNat k).length = digits.length + zeros := by
    rw [hsplit, List.length_append, List.length_replicate]
  have hpos : 0 < (decimalNat k).length := List.length_pos_iff.mpr (decimalNat_ne_nil k)
  rw [hdigits, decimalNat_mul_pow hk, Decimal.positional, if_neg (by dsimp only; omega)]
  have hpoint : ((decimalNat k).length + p : Int).toNat = digits.length + zeros + p := by omega
  dsimp only
  have hzeros : digits.length + zeros + p - digits.length = zeros + p := by omega
  rw [hpoint, List.take_of_length_le (by omega), List.drop_of_length_le (by omega), hzeros, hsplit,
    List.append_assoc, List.append_assoc, ← List.replicate_append_replicate]
  simp

/-! ### Numbers of 64 bits -/

/-- The multiple of 2048 nearest to a number, a tie going to the even multiple. -/
def near (n : Nat) : Nat :=
  2048 * roundDiv n 2048

theorem near_eq_iff {n m : Nat} : near n = 2048 * m ↔
    2048 * m < n + 1024 ∧ n < 2048 * m + 1024 ∨
      m % 2 = 0 ∧ 2048 * m ≤ n + 1024 ∧ n ≤ 2048 * m + 1024 := by
  rw [near, roundDiv]
  split <;> omega

/-- From `2 ^ 63` on, the floats are multiples of 2048, up to the first of them beyond 64 bits. -/
theorem ofNat_eq {n : Nat} (hlow : Nat.pow 2 63 ≤ n) (hhigh : n < Nat.pow 2 64) :
    ofNat n = if roundDiv n 2048 = Nat.pow 2 53 then finite false (Nat.pow 2 52) 12
      else finite false (roundDiv n 2048) 11 := by
  have hlimits : Nat.pow 2 63 = 9223372036854775808 ∧ Nat.pow 2 53 = 9007199254740992 := by decide
  have hne : n ≠ 0 := by omega
  have hlog : n.log2 = 63 := (Nat.log2_eq_iff hne).mpr ⟨hlow, hhigh⟩
  have hguess : max ((n.log2 : Int) - Nat.log2 1 - precision) minExponent = 10 := by
    rw [hlog]
    decide
  have hscale (e : Nat) : scale n 1 e = (n, Nat.pow 2 e) := by
    have hzero : (-(e : Int)).toNat = 0 := by omega
    rw [scale, hzero, Int.toNat_natCast, Nat.one_mul]
    exact congrArg (·, Nat.pow 2 e) (Nat.mul_one n)
  have hfirst : scale n 1 10 = (n, 1024) := hscale 10
  have hsecond : scale n 1 (10 + 1) = (n, 2048) := hscale 11
  have hlong : Nat.pow 2 precision ≤ n / 1024 := by
    change Nat.pow 2 53 ≤ n / 1024
    omega
  rw [ofNat, ofRatio, if_neg hne]
  simp only [hguess, hfirst, if_pos hlong, hsecond]
  by_cases hcarry : roundDiv n 2048 = Nat.pow 2 53
  · rw [if_pos (show roundDiv n 2048 = Nat.pow 2 precision from hcarry), if_pos hcarry]
    exact if_neg (by decide)
  · rw [if_neg (show ¬ roundDiv n 2048 = Nat.pow 2 precision from hcarry), if_neg hcarry]
    exact if_neg (show ¬ maxExponent < (11 : Int) by decide)

/-- The shortest decimal that has the float of a number: the only multiple of 10000 that has it, or
else the multiple of 1000 nearest to the float. -/
structure IsShortest (n k : Nat) : Prop where
  near_eq : near k = near n
  dvd : 1000 ∣ k
  closest : 10000 ∣ k ∨ (k < near n + 500 ∧ near n < k + 500) ∧ ∀ m, near m = near n → ¬ 10000 ∣ m

theorem le_of_near_eq {n k : Nat} (h : near k = near n) :
    k ≤ near n + 1024 ∧ near n ≤ k + 1024 := by
  have hk := near_eq_iff.mp (h : near k = 2048 * roundDiv n 2048)
  rw [near]
  omega

/-- Multiples of 10000 are too far apart to have the same float, and so are multiples of 1000 that
are nearest to it. -/
theorem IsShortest.unique {n k k' : Nat} (h : IsShortest n k) (h' : IsShortest n k') : k = k' := by
  have hk := le_of_near_eq h.near_eq
  have hk' := le_of_near_eq h'.near_eq
  have hdvd := h.dvd
  have hdvd' := h'.dvd
  rcases h.closest with hround | ⟨hclose, hnone⟩
  · rcases h'.closest with hround' | ⟨-, hnone'⟩
    · omega
    · exact absurd hround (hnone' k h.near_eq)
  · rcases h'.closest with hround' | ⟨hclose', -⟩
    · exact absurd hround' (hnone k' h'.near_eq)
    · omega

section Between

variable {m : Nat} (hlow : Nat.pow 2 52 < m) (hhigh : m < Nat.pow 2 53)

theorem scaled_interval (p x : Nat) : (interval m 11).scaled p x = x * 512 := by
  have hzero : (-(p : Int)).toNat = 0 := by omega
  rw [Interval.scaled, hzero]
  exact Nat.mul_one _

theorem unit_interval (p : Nat) : (interval m 11).unit p = Nat.pow 10 p := by
  rw [Interval.unit, Int.toNat_natCast]
  exact Nat.one_mul _

include hlow

theorem low_interval : (interval m 11).low = 4 * m - 2 :=
  if_neg fun h ↦ Nat.ne_of_gt hlow h.1

/-- A decimal rounds to a float between `2 ^ 63` and `2 ^ 64` just if the float is the multiple of
2048 nearest to it. -/
theorem holds_interval_iff {k p : Nat} :
    (interval m 11).holds p k = true ↔ near (k * Nat.pow 10 p) = 2048 * m := by
  rw [holds_iff, unit_interval, scaled_interval, scaled_interval, low_interval hlow, near_eq_iff,
    interval]
  dsimp only
  rw [beq_iff_eq]
  omega

theorem nearest?_interval_eq_none_iff {p : Nat} : nearest? .up (interval m 11) p = none ↔
    ∀ k, near (k * Nat.pow 10 p) ≠ 2048 * m := by
  have hbounds : (interval m 11).low < (interval m 11).value ∧
      (interval m 11).value < (interval m 11).high := by
    rw [low_interval hlow]
    change 4 * m - 2 < 4 * m ∧ 4 * m < 4 * m + 2
    omega
  rw [nearest?_eq_none_iff hbounds.1 hbounds.2]
  refine forall_congr' fun k ↦ ?_
  rw [Bool.eq_false_iff, ne_eq, holds_interval_iff hlow]

/-- Both neighbours of the float among the multiples of 1000 have the float, and the nearer one is
taken. -/
theorem lt_of_nearest?_interval {k : Nat} (h : nearest? .up (interval m 11) (3 : Nat) = some k) :
    k * 1000 < 2048 * m + 500 ∧ 2048 * m < k * 1000 + 500 := by
  have hvalue : (interval m 11).scaled (3 : Nat) (interval m 11).value = 2048 * m := by
    rw [scaled_interval]
    change 4 * m * 512 = _
    omega
  have hunit : (interval m 11).unit (3 : Nat) = 1000 := unit_interval 3
  have hnear {x : Nat} (hx : x = 2048 * m / 1000 ∨ x = 2048 * m / 1000 + 1) :
      (interval m 11).holds (3 : Nat) x = true := by
    refine (holds_interval_iff hlow).mpr (near_eq_iff.mpr ?_)
    change 2048 * m < x * 1000 + 1024 ∧ x * 1000 < 2048 * m + 1024 ∨ _
    omega
  rw [nearest?, hvalue, hunit, hnear (.inl rfl), hnear (.inr rfl)] at h
  have hk := Option.some.inj h
  -- The float is never exactly between two multiples of 1000, since no multiple of 8 is.
  split at hk
  all_goals
    rename_i hside
    simp only [Bool.or_eq_true, decide_eq_true_eq, Bool.and_eq_true, beq_iff_eq, and_true] at hside
    omega

include hhigh

/-- Such a float has 19 or 20 digits in front of the point. -/
theorem pointFrom_bounds :
    19 ≤ pointFrom (m * 2048) 1 8 17 ∧ pointFrom (m * 2048) 1 8 17 ≤ 20 := by
  have hlimits : Nat.pow 2 52 = 4503599627370496 ∧ Nat.pow 2 53 = 9007199254740992 := by decide
  have hfirst : ¬ m * 2048 * Nat.pow 10 (-17 : Int).toNat < 1 * Nat.pow 10 (17 : Int).toNat := by
    change ¬ m * 2048 * 1 < 100000000000000000
    omega
  have hsecond : ¬ m * 2048 * Nat.pow 10 (-(17 + 1) : Int).toNat <
      1 * Nat.pow 10 (17 + 1 : Int).toNat := by
    change ¬ m * 2048 * 1 < 1000000000000000000
    omega
  have hfourth : m * 2048 * Nat.pow 10 (-(17 + 1 + 1 + 1) : Int).toNat <
      1 * Nat.pow 10 (17 + 1 + 1 + 1 : Int).toNat := by
    change m * 2048 * 1 < 100000000000000000000
    omega
  rw [pointFrom, if_neg hfirst, pointFrom, if_neg hsecond, pointFrom]
  split
  · decide
  · rw [pointFrom, if_pos hfourth]
    decide

/-- The search ends on a grid of multiples of 1000, or on a coarser one. -/
theorem exists_shortest_eq : ∃ k p : Nat,
    shortest .up m 11 = ⟨((decimalNat k).reverse.dropWhile (· == '0')).reverse,
      (decimalNat k).length + p⟩ ∧
      3 ≤ p ∧ nearest? .up (interval m 11) p = some k ∧
      (p = 3 → nearest? .up (interval m 11) (4 : Nat) = none) := by
  have hlimits : Nat.pow 2 52 = 4503599627370496 ∧ Nat.pow 2 53 = 9007199254740992 ∧
      Nat.pow 2 63 = 9223372036854775808 ∧ Nat.pow 2 64 = 18446744073709551616 := by
    decide
  have hscale : scale m 1 (-11) = (m * 2048, 1) := rfl
  have hlog : (m * 2048).log2 = 63 :=
    (Nat.log2_eq_iff (by omega)).mpr
      (show Nat.pow 2 63 ≤ m * 2048 ∧ m * 2048 < Nat.pow 2 64 by omega)
  have hstart : (((m * 2048).log2 : Int) - Nat.log2 1 - 1) * 30103 / 100000 - 1 = 17 := by
    rw [hlog]
    decide
  have hpoint := pointFrom_bounds hlow hhigh
  have hhit : nearest? .up (interval m 11) (3 : Nat) ≠ none := by
    rw [ne_eq, nearest?_interval_eq_none_iff hlow]
    intro h
    refine h (2048 * m / 1000) (near_eq_iff.mpr ?_)
    change 2048 * m < 2048 * m / 1000 * 1000 + 1024 ∧ 2048 * m / 1000 * 1000 < 2048 * m + 1024 ∨ _
    omega
  obtain ⟨k, power, hfirst, hnearest, hle, hcoarser⟩ :=
    exists_firstHit_eq (pointFrom (m * 2048) 1 8 17) 17 (by omega) (by omega) hhit
  obtain ⟨p, rfl⟩ := Int.eq_ofNat_of_zero_le (show 0 ≤ power by omega)
  refine ⟨k, p, ?_, by omega, hnearest, ?_⟩
  · rw [shortest, if_neg (by omega), hscale]
    dsimp only
    rw [hstart, hfirst]
  · rintro rfl
    exact hcoarser _ (by omega) (by omega)

/-- The text of a float between `2 ^ 63` and `2 ^ 64`. -/
theorem exists_plainText_eq {n : Nat} (hn : near n = 2048 * m) :
    ∃ k, (finite false m 11).plainText = decimalNat k ∧ IsShortest n k := by
  obtain ⟨k, p, hshortest, hp, hnearest, hcoarser⟩ := exists_shortest_eq hlow hhigh
  have hnear := (holds_interval_iff hlow).mp (holds_of_nearest?_eq_some hnearest)
  have hk : k ≠ 0 := by
    rintro rfl
    have hzero : near (0 * Nat.pow 10 p) = 0 := by
      rw [Nat.zero_mul]
      decide
    omega
  refine ⟨k * Nat.pow 10 p, ?_, hnear.trans hn.symm, ?_, ?_⟩
  · rw [plainText, hshortest, positional_trimmed hk]
    rfl
  · exact Nat.dvd_mul_left_of_dvd (Nat.pow_dvd_pow 10 hp) k
  · by_cases hthree : p = 3
    · subst hthree
      rw [hn]
      refine .inr ⟨lt_of_nearest?_interval hlow hnearest, fun x hx hround ↦ ?_⟩
      obtain ⟨y, rfl⟩ := hround
      have hnone := (nearest?_interval_eq_none_iff hlow).mp (hcoarser rfl) y
      rw [Nat.mul_comm] at hx
      exact hnone hx
    · have hfour : 4 ≤ p := by omega
      exact .inl (Nat.dvd_mul_left_of_dvd (Nat.pow_dvd_pow 10 hfour) k)

end Between

/-- The text of the float of a number from `2 ^ 63` up to `2 ^ 64` is the shortest decimal of the
float. -/
theorem exists_plainText_ofNat_eq {n : Nat} (hlow : Nat.pow 2 63 ≤ n) (hhigh : n < Nat.pow 2 64) :
    ∃ k, (ofNat n).plainText = decimalNat k ∧ IsShortest n k := by
  have hlimits : Nat.pow 2 52 = 4503599627370496 ∧ Nat.pow 2 53 = 9007199254740992 ∧
      Nat.pow 2 63 = 9223372036854775808 ∧ Nat.pow 2 64 = 18446744073709551616 := by
    decide
  have hnear : near n = 2048 * roundDiv n 2048 := rfl
  -- A float that no multiple of 10000 has, and the multiple of 1000 nearest to it.
  have hlone {k : Nat} (hk : near k = near n) (hdvd : 1000 ∣ k)
      (hclose : k < near n + 500 ∧ near n < k + 500)
      (hfar : ∀ x, x ≤ near n + 1024 → near n ≤ x + 1024 → ¬ 10000 ∣ x) : IsShortest n k :=
    ⟨hk, hdvd, .inr ⟨hclose, fun x hx ↦ hfar x (le_of_near_eq hx).1 (le_of_near_eq hx).2⟩⟩
  rw [ofNat_eq hlow hhigh]
  -- At both ends of the range the floats are not as far apart on both sides.
  split
  next hlast =>
    rw [hlast] at hnear
    refine ⟨18446744073709552000, by decide +kernel, hlone ?_ (by decide) ?_ ?_⟩
    · rw [hnear]
      decide +kernel
    · omega
    · omega
  next hlast =>
    by_cases hfirst : roundDiv n 2048 = Nat.pow 2 52
    · rw [hfirst] at hnear ⊢
      refine ⟨9223372036854776000, by decide +kernel, hlone ?_ (by decide) ?_ ?_⟩
      · rw [hnear]
        decide +kernel
      · omega
      · omega
    · have hbounds := le_of_near_eq (show near n = near n from rfl)
      exact exists_plainText_eq (by omega) (by omega) hnear

/-- Such a number keeps its text just if it is the shortest decimal itself. -/
theorem plainText_ofNat_eq_iff {n : Nat} (hlow : Nat.pow 2 63 ≤ n) (hhigh : n < Nat.pow 2 64) :
    (ofNat n).plainText = decimalNat n ↔ IsShortest n n := by
  obtain ⟨k, htext, hk⟩ := exists_plainText_ofNat_eq hlow hhigh
  rw [htext, decimalNat_inj]
  constructor
  · rintro rfl
    exact hk
  · exact hk.unique

end Responsive.Binary64

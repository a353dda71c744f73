import Responsive.Proofs.Json.Numeral

/-!
# Texts of floats

The text of a finite float is a numeral, in plain and in scientific notation. For that its digits
must not begin with a zero, unless a zero is all there is in front of the point.

* `exists_text_eq`: the numeral of a finite float.
* `Number.exists_read?_text`: whatever finite number is printed, a numeral is read.
-/

set_option autoImplicit false
set_option relaxedAutoImplicit false

namespace Responsive.Binary64

open Json Text

/-- The digits do not begin with a zero, or there is at most a zero, right in front of the point. -/
structure Decimal.Neat (d : Decimal) : Prop where
  isDigit : ∀ c ∈ d.digits, c.isDigit = true
  head : d.digits ≠ [] ∧ d.digits.head? ≠ some '0' ∨
    (d.digits = [] ∨ d.digits = ['0']) ∧ d.point = 1

/-! ### Digits -/

/-- What is found rounds to the value. -/
theorem holds_of_nearest?_eq_some {tie : Tie} {i : Interval} {power : Int} {n : Nat}
    (h : nearest? tie i power = some n) : i.holds power n = true := by
  unfold nearest? at h
  dsimp only at h
  split at h
  next hlower hupper =>
    obtain rfl := Option.some.inj h
    rw [apply_ite (i.holds power), hupper, hlower, ite_self]
  next hlower _ =>
    obtain rfl := Option.some.inj h
    exact hlower
  next _ hupper =>
    obtain rfl := Option.some.inj h
    exact hupper
  next => contradiction

/-- Zero does not round to a positive value. -/
theorem holds_zero {i : Interval} (hlow : 0 < i.low) (power : Int) : i.holds power 0 = false := by
  have hpos : 0 < i.scaled power i.low :=
    Nat.mul_pos (Nat.mul_pos hlow (Nat.pow_pos (by decide))) (Nat.pow_pos (by decide))
  rw [Interval.holds, Nat.zero_mul]
  split
  · rw [decide_eq_false (Nat.not_le.mpr hpos), Bool.false_and]
  · rw [decide_eq_false (Nat.not_lt_zero _), Bool.false_and]

theorem firstHit_cases (tie : Tie) {i : Interval} (hlow : 0 < i.low) (point : Int) (fuel : Nat) :
    (firstHit tie i point fuel).1 ≠ 0 ∨ firstHit tie i point fuel = (0, 0) := by
  induction fuel with
  | zero => exact .inr rfl
  | succ fuel ih =>
    rw [firstHit]
    split
    next n hn =>
      left
      rintro rfl
      exact absurd ((holds_of_nearest?_eq_some hn).symm.trans (holds_zero hlow _)) (by decide)
    next => exact ih

/-- The digits of a number without the zeros at its end. -/
theorem neat_trimmed {n : Nat} (hn : n ≠ 0) (point : Int) :
    Decimal.Neat ⟨((decimalNat n).reverse.dropWhile (· == '0')).reverse, point⟩ := by
  have hfront : ((decimalNat n).reverse.dropWhile (· == '0')).reverse <+: decimalNat n := by
    rw [← List.reverse_suffix, List.reverse_reverse]
    exact List.dropWhile_suffix _
  have hhead := Numeral.head?_decimalNat_ne hn
  obtain ⟨first, rest, hdigits⟩ := List.exists_cons_of_ne_nil (decimalNat_ne_nil n)
  have hfirst : first ≠ '0' := fun heq ↦ hhead (by rw [hdigits, heq]; rfl)
  refine ⟨fun c hc ↦ isDigit_of_mem_decimalNat (hfront.subset hc), .inl ?_⟩
  dsimp only
  cases htrimmed : ((decimalNat n).reverse.dropWhile (· == '0')).reverse with
  | nil =>
    have hzeros := List.dropWhile_eq_nil_iff.mp (List.reverse_eq_nil_iff.mp htrimmed) first
    rw [List.mem_reverse, hdigits] at hzeros
    exact absurd (by simpa using hzeros List.mem_cons_self) hfirst
  | cons c digits =>
    rw [htrimmed, hdigits] at hfront
    obtain ⟨rfl, -⟩ := List.cons_prefix_cons.mp hfront
    exact ⟨List.cons_ne_nil _ _, fun heq ↦ hfirst (Option.some.inj heq)⟩

theorem neat_shortest (tie : Tie) (m : Nat) (e : Int) : (shortest tie m e).Neat := by
  unfold shortest
  split
  next => exact ⟨by simp, .inr ⟨.inr rfl, rfl⟩⟩
  next hm =>
    have hlow : 0 < (interval m e).low := by
      rw [interval]
      dsimp only
      split <;> omega
    dsimp only
    generalize pointFrom _ _ 8 _ = point
    rcases firstHit_cases tie hlow point 17 with hn | hnone
    · exact neat_trimmed hn _
    · rw [hnone]
      exact ⟨by simp [decimalNat], .inr ⟨.inl (by decide), by decide⟩⟩

/-! ### Notations -/

theorem isDigit_of_mem_replicate {k : Nat} : ∀ c ∈ List.replicate k '0', c.isDigit = true := by
  intro c hc
  rw [List.eq_of_mem_replicate hc]
  decide

/-- The digits in front of the point, with zeros where there are too few. -/
def Decimal.wholeDigits (d : Decimal) : List Char :=
  d.digits.take d.point.toNat ++
    List.replicate (d.point.toNat - (d.digits.take d.point.toNat).length) '0'

theorem isRun_wholeDigits {d : Decimal} (h : d.Neat) (hpoint : 0 < d.point) :
    Numeral.IsRun d.wholeDigits := by
  refine ⟨fun hnil ↦ ?_, fun c hc ↦ ?_⟩
  · have hlength := congrArg List.length hnil
    simp only [Decimal.wholeDigits, List.length_append, List.length_take, List.length_replicate,
      List.length_nil] at hlength
    omega
  · rcases List.mem_append.mp hc with hdigit | hzero
    · exact h.isDigit c (List.mem_of_mem_take hdigit)
    · exact isDigit_of_mem_replicate c hzero

theorem wholeDigits_ne {d : Decimal} (h : d.Neat) (hpoint : 0 < d.point) (c : Char)
    (more : List Char) : d.wholeDigits ≠ '0' :: c :: more := by
  unfold Decimal.wholeDigits
  rcases h.head with ⟨hne, hhead⟩ | ⟨hdigits, hone⟩
  · obtain ⟨first, rest, hdigits⟩ := List.exists_cons_of_ne_nil hne
    obtain ⟨k, hk⟩ : ∃ k, d.point.toNat = k + 1 := ⟨d.point.toNat - 1, by omega⟩
    rw [hdigits] at hhead ⊢
    rw [hk, List.take_succ_cons, List.cons_append]
    exact fun heq ↦ hhead (congrArg some (List.cons.inj heq).1)
  · rw [hone]
    rcases hdigits with hdigits | hdigits <;> rw [hdigits] <;> simp

/-- Plain notation is that of a numeral. -/
theorem exists_positional_eq {d : Decimal} (h : d.Neat) (negative : Bool) :
    ∃ n : Numeral, n.WellFormed ∧ n.text = signText negative ++ d.positional ['.', '0'] := by
  unfold Decimal.positional
  split
  next hpoint =>
    have hne : d.digits ≠ [] := by
      rcases h.head with ⟨hne, -⟩ | ⟨-, hone⟩
      · exact hne
      · omega
    refine ⟨⟨negative, ['0'], List.replicate (-d.point).toNat '0' ++ d.digits, none⟩,
      ⟨⟨by simp, by simp⟩, by simp, ?_, by simp⟩, ?_⟩
    · intro c hc
      rcases List.mem_append.mp hc with hzero | hdigit
      · exact isDigit_of_mem_replicate c hzero
      · exact h.isDigit c hdigit
    · simp [Numeral.text, Numeral.fractionText, Numeral.exponentText, signText, hne]
  next hpoint =>
    have hrun := isRun_wholeDigits h (Int.not_le.mp hpoint)
    have hzero := wholeDigits_ne h (Int.not_le.mp hpoint)
    dsimp only
    rw [← Decimal.wholeDigits]
    split
    next hnone =>
      refine ⟨⟨negative, d.wholeDigits, ['0'], none⟩, ⟨hrun, hzero, by simp, by simp⟩, ?_⟩
      simp [Numeral.text, Numeral.fractionText, Numeral.exponentText, signText]
    next hsome =>
      refine ⟨⟨negative, d.wholeDigits, d.digits.drop d.point.toNat, none⟩,
        ⟨hrun, hzero, fun c hc ↦ h.isDigit c (List.mem_of_mem_drop hc), by simp⟩, ?_⟩
      rw [Numeral.text, Numeral.fractionText, if_neg hsome]
      simp [Numeral.exponentText, signText]

/-- Scientific notation is that of a numeral. -/
theorem exists_scientific_eq {d : Decimal} (h : d.Neat) (hpoint : d.point ≠ 1) (negative : Bool) :
    ∃ n : Numeral, n.WellFormed ∧ n.text = signText negative ++ d.scientific := by
  rcases h.head with ⟨hne, -⟩ | ⟨-, hone⟩
  · obtain ⟨first, rest, hdigits⟩ := List.exists_cons_of_ne_nil hne
    have hall := h.isDigit
    rw [hdigits] at hall
    have hwhole : Numeral.IsRun [first] :=
      ⟨by simp, fun c hc ↦ hall c (List.mem_singleton.mp hc ▸ List.mem_cons_self)⟩
    have hfraction : ∀ c ∈ rest, c.isDigit = true := fun c hc ↦ hall c (List.mem_cons_of_mem _ hc)
    unfold Decimal.scientific
    rw [hdigits]
    cases hpower : d.point - 1 with
    | ofNat k =>
      refine ⟨⟨negative, [first], rest, some (false, decimalNat k)⟩,
        ⟨hwhole, by simp, hfraction, ?_⟩, ?_⟩
      · intro exponent hexponent
        obtain rfl := Option.some.inj hexponent
        exact Numeral.isRun_decimalNat k
      · simp [Numeral.text, Numeral.fractionText, Numeral.exponentText, signText, decimal]
    | negSucc k =>
      refine ⟨⟨negative, [first], rest, some (true, decimalNat (k + 1))⟩,
        ⟨hwhole, by simp, hfraction, ?_⟩, ?_⟩
      · intro exponent hexponent
        obtain rfl := Option.some.inj hexponent
        exact Numeral.isRun_decimalNat (k + 1)
      · simp [Numeral.text, Numeral.fractionText, Numeral.exponentText, signText, decimal]
  · exact absurd hone hpoint

/-- The text of a finite float is a numeral. -/
theorem exists_text_eq {x : Binary64} (h : x.isFinite = true) :
    ∃ n : Numeral, n.WellFormed ∧ n.text = x.numeralText := by
  cases x with
  | infinite s => contradiction
  | nan => contradiction
  | finite s m e =>
    have hneat := neat_shortest .even m e
    unfold numeralText
    dsimp only
    split
    next => exact exists_positional_eq hneat s
    next hfar => exact exists_scientific_eq hneat (by omega) s

end Responsive.Binary64

namespace Responsive.Json.Number

/-- Whether the number is a value of JSON: every integer is one, and every finite float. -/
def isFinite : Number → Bool
  | .int _ => true
  | .float x => x.isFinite

/-- Whatever finite number is printed, a numeral is read. -/
theorem exists_read?_text {n : Number} (h : n.isFinite = true) :
    ∃ numeral, Numeral.read? n.text = some (numeral, []) := by
  cases n with
  | int n =>
    refine ⟨.ofInt n, ?_⟩
    rw [text, ← Numeral.text_ofInt]
    exact Numeral.read?_text (Numeral.wellFormed_ofInt n)
  | float x =>
    obtain ⟨numeral, hwell, htext⟩ := Binary64.exists_text_eq h
    refine ⟨numeral, ?_⟩
    rw [text, ← htext]
    exact Numeral.read?_text hwell

/-- A number that is not finite is printed as `null`. -/
theorem text_eq_null {n : Number} (h : n.isFinite = false) : n.text = ['n', 'u', 'l', 'l'] := by
  rcases n with n | ⟨⟩ | _ | _
  · contradiction
  · contradiction
  · rfl
  · rfl

/-- What the text of the number is read as, unless that is beyond the floats. -/
def reread (n : Number) : Option Number :=
  (Numeral.read? n.text).bind fun found ↦ found.1.value?

theorem readsBack_iff {n : Number} (h : n.isFinite = true) : n.ReadsBack ↔ n.reread = some n := by
  obtain ⟨numeral, hread⟩ := exists_read?_text h
  rw [ReadsBack, reread, hread]
  constructor
  · rintro ⟨_, heq, hvalue⟩
    obtain rfl := (Prod.mk.inj (Option.some.inj heq)).1
    exact hvalue
  · exact fun hvalue ↦ ⟨numeral, rfl, hvalue⟩

theorem not_readsBack {n : Number} (h : n.isFinite = false) : ¬ n.ReadsBack := by
  rintro ⟨numeral, hread, -⟩
  rw [text_eq_null h] at hread
  contradiction

theorem readsBack_iff_and (n : Number) :
    n.isFinite = true ∧ n.reread = some n ↔ n.ReadsBack := by
  cases hfinite : n.isFinite with
  | true => simp [readsBack_iff hfinite]
  | false => simp [not_readsBack hfinite]

instance : DecidablePred ReadsBack := fun n ↦ decidable_of_iff _ (readsBack_iff_and n)

end Responsive.Json.Number

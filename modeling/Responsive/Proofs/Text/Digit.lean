import Mathlib.Data.List.DropRight
import Responsive.Text.Alphanumeric
import Responsive.Text.Blank
import Responsive.Text.Decimal

/-!
# Digits and blanks

A digit is no blank, so a number stands as it is when blanks are skipped before it or trimmed off
around it. Trimming leaves nothing to be trimmed.
-/

set_option autoImplicit false
set_option relaxedAutoImplicit false

namespace Responsive.Text

/-- No digit of any script is a blank. -/
theorem isBlank_eq_false_of_isDecimalDigit {x : Char} (h : isDecimalDigit x = true) :
    isBlank x = false := by
  have hranges : ∀ range ∈ decimalDigitRanges, 0xA0 < range.1 ∧
      (range.2 < 0x1680 ∨ 0x1680 < range.1 ∧ (range.2 < 0x2000 ∨ 0x3000 < range.1)) := by
    decide
  have hplace : 48 ≤ x.toNat ∧ x.toNat ≤ 57 ∨ 0xA0 < x.toNat ∧
      (x.toNat < 0x1680 ∨ 0x1680 < x.toNat ∧ (x.toNat < 0x2000 ∨ 0x3000 < x.toNat)) := by
    rw [isDecimalDigit, Bool.or_eq_true] at h
    rcases h with hascii | hrange
    · simp only [Char.isDigit, Bool.and_eq_true, decide_eq_true_eq, ge_iff_le] at hascii
      exact .inl hascii
    · simp only [inRanges, List.any_eq_true, Bool.and_eq_true, decide_eq_true_eq] at hrange
      obtain ⟨range, hmem, hlow, hhigh⟩ := hrange
      have := hranges range hmem
      omega
  simp only [isBlank, Bool.or_eq_false_iff, Bool.and_eq_false_imp, decide_eq_true_eq,
    decide_eq_false_iff_not, beq_eq_false_iff_ne]
  omega

theorem isBlank_eq_false_of_isDigit {c : Char} (h : c.isDigit = true) : isBlank c = false :=
  isBlank_eq_false_of_isDecimalDigit (isDecimalDigit_of_isDigit h)

/-- Text without blanks has none to be trimmed. -/
theorem trim_eq_self {s : List Char} (h : ∀ c ∈ s, isBlank c = false) : trim s = s := by
  have hdrop {s : List Char} (hs : ∀ c ∈ s, isBlank c = false) : s.dropWhile isBlank = s := by
    cases s with
    | nil => rfl
    | cons c s => exact List.dropWhile_cons_of_neg (by simp [hs c List.mem_cons_self])
  rw [trim, trimStart, hdrop h, hdrop fun c hc ↦ h c (List.mem_reverse.mp hc), List.reverse_reverse]

theorem trim_eq_rdropWhile (s : List Char) :
    trim s = (s.dropWhile isBlank).rdropWhile isBlank := rfl

/-- A beginning of a text that does not begin with a blank does not begin with one either. -/
theorem dropWhile_isBlank_of_isPrefix {s t : List Char} (h : s <+: t)
    (ht : t.dropWhile isBlank = t) : s.dropWhile isBlank = s := by
  cases s with
  | nil => rfl
  | cons c s =>
    obtain ⟨rest, rfl⟩ := h
    rw [List.dropWhile_eq_self_iff] at ht ⊢
    intro _
    exact ht (Nat.zero_lt_succ _)

/-- A trimmed text has nothing left to be trimmed. -/
theorem trim_trim (s : List Char) : trim (trim s) = trim s := by
  have hfront : (trim s).dropWhile isBlank = trim s :=
    dropWhile_isBlank_of_isPrefix (List.rdropWhile_prefix isBlank _)
      (List.dropWhile_idempotent isBlank _)
  rw [trim_eq_rdropWhile (trim s), hfront, trim_eq_rdropWhile, List.rdropWhile_idempotent]

theorem trimmed_trimmed (s : String) : trimmed (trimmed s) = trimmed s := by
  rw [trimmed, toList_trimmed, trim_trim, trimmed]

theorem decimalNat_ne_nil (n : Nat) : decimalNat n ≠ [] :=
  Nat.toDigits_ne_nil

theorem decimalNat_inj {n m : Nat} : decimalNat n = decimalNat m ↔ n = m := by
  constructor
  · intro h
    have hback := congrArg (Nat.ofDigitChars 10 · 0) h
    rwa [decimalNat, decimalNat, Nat.ofDigitChars_toDigits (by decide) (by decide),
      Nat.ofDigitChars_toDigits (by decide) (by decide)] at hback
  · rintro rfl
    rfl

theorem isDigit_of_mem_decimalNat {n : Nat} {c : Char} (h : c ∈ decimalNat n) : c.isDigit = true :=
  Nat.isDigit_of_mem_toDigits (by decide) (by decide) h

/-- A number less one is written as a run of digits, or it is minus one. -/
theorem decimal_sub_one_eq (n : Nat) :
    decimal (n - 1 : Int) = ['-', '1'] ∨ decimal (n - 1 : Int) ≠ [] ∧
      ∀ c ∈ decimal (n - 1 : Int), c.isDigit = true := by
  cases n with
  | zero => exact .inl (by decide)
  | succ n =>
    have hn : ((n + 1 : Nat) : Int) - 1 = Int.ofNat n := by simp
    rw [hn, decimal]
    exact .inr ⟨decimalNat_ne_nil n, fun c hc ↦ isDigit_of_mem_decimalNat hc⟩

/-- The only characters of a number less one are digits and the minus sign. -/
theorem not_mem_decimal_sub_one {c : Char} (hdigit : c.isDigit = false) (hminus : c ≠ '-')
    (n : Nat) : c ∉ decimal (n - 1) := by
  intro hmem
  rcases decimal_sub_one_eq n with h | ⟨-, hdigits⟩
  · rw [h] at hmem
    simp only [List.mem_cons, List.not_mem_nil, or_false] at hmem
    rcases hmem with rfl | rfl
    · exact hminus rfl
    · contradiction
  · rw [hdigits c hmem] at hdigit
    contradiction

end Responsive.Text

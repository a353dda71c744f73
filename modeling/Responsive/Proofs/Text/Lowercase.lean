import Responsive.Text.Lowercase
import Responsive.Text.Slice

/-!
# Full and ASCII lower case

Two ways to ignore the case of a text: full lower-casing, and lower-casing of the ASCII capitals
alone. They differ on characters beyond ASCII, and the lower case of such a character can hold an
ASCII letter: the Kelvin sign becomes a `k`, and the dotted capital `İ` an `i` with a dot behind it.
No other letter of ASCII comes from beyond, so the two ways agree on which texts become a given
ASCII word without a `k`.

* `lowerFrom_eq_iff`: full and ASCII lower case agree on which texts become a plain word.
-/

set_option autoImplicit false
set_option relaxedAutoImplicit false

namespace Responsive.Text

/-! ### Single characters -/

/-- A character of ASCII that is the lower case of no character beyond ASCII. -/
def IsPlain (c : Char) : Prop :=
  c.toNat < 0x80 ∧ c ≠ 'k' ∧ c ≠ '\x00'

instance : DecidablePred IsPlain := fun _ ↦ inferInstanceAs (Decidable (_ ∧ _))

/-- ASCII lower case leaves characters beyond ASCII alone. -/
theorem toNat_lt_of_toLower {c : Char} (h : c.toLower.toNat < 0x80) : c.toNat < 0x80 := by
  unfold Char.toLower at h
  split at h
  next hcapital => exact Nat.lt_of_le_of_lt hcapital.2 (by decide)
  next => exact h

/-- ASCII lower case leaves every character as long as it is. -/
theorem utf8Size_toLower (c : Char) : c.toLower.utf8Size = c.utf8Size := by
  unfold Char.toLower
  split
  next h =>
    have hle : c.val ≤ 127 := UInt32.le_trans h.2 (by decide)
    have hcapital : c.val.toNat ≤ 90 := h.2
    rw [Char.utf8Size_eq_one_iff.mpr hle, Char.utf8Size_eq_one_iff, UInt32.le_iff_toNat_le,
      UInt32.toNat_add]
    change (c.val.toNat + 32) % 2 ^ 32 ≤ 127
    omega
  next => rfl

/-- The letters of ASCII and the Kelvin sign apart, no lower case is in ASCII. -/
theorem le_or_eq_of_lowerCode?_eq_some {n m : Nat} (hn : 0x80 ≤ n) (h : lowerCode? n = some m) :
    0x80 ≤ m ∨ m = 'k'.toNat := by
  have hruns : ∀ run ∈ caseRuns, run.last < 0x80 ∨ 0x80 ≤ run.first + run.offset ∨
      run.first = run.last ∧ run.first + run.offset = 'k'.toNat := by
    decide +kernel
  obtain ⟨run, hfind, rfl⟩ := Option.map_eq_some_iff.mp h
  have hrun := List.find?_some hfind
  simp only [Bool.and_eq_true, decide_eq_true_eq] at hrun
  rcases hruns run (List.mem_of_find?_eq_some hfind) with hascii | hbeyond | ⟨hsingle, hkelvin⟩
  · omega
  · left
    omega
  · right
    omega

/-- The lower case of a character beyond ASCII is not plain throughout. -/
theorem exists_not_isPlain_of_mem_lowerChar {c : Char} (h : 0x80 ≤ c.toNat) :
    ∃ d ∈ lowerChar c, ¬ IsPlain d := by
  have hbeyond {d : Char} (hd : 0x80 ≤ d.toNat) : ¬ IsPlain d := fun hplain ↦
    Nat.not_lt.mpr hd hplain.1
  unfold lowerChar
  rw [if_neg (Nat.not_lt.mpr h)]
  split
  · exact ⟨Char.ofNat 0x307, by simp, by decide⟩
  · refine ⟨_, List.mem_singleton_self _, ?_⟩
    cases hcode : lowerCode? c.toNat with
    | none => exact hbeyond h
    | some m =>
      rw [Option.map_some, Option.getD_some]
      -- A code that is no character would stand for the null character.
      by_cases hvalid : m.isValidChar
      · have hm : (Char.ofNat m).toNat = m := by
          rw [Char.ofNat, dif_pos hvalid]
          rfl
        rcases le_or_eq_of_lowerCode?_eq_some h hcode with hle | rfl
        · exact hbeyond (by rw [hm]; exact hle)
        · decide
      · have hm : Char.ofNat m = '\x00' := by
          rw [Char.ofNat, dif_neg hvalid]
          rfl
        rw [hm]
        decide

/-! ### Texts -/

/-- What is put in the place of a character has something that is not plain if the character is
beyond ASCII. -/
theorem lowerFrom_cons_of_le (before s : List Char) {c : Char} (h : 0x80 ≤ c.toNat) :
    ∃ d ∈ lowerFrom before (c :: s), ¬ IsPlain d := by
  rw [lowerFrom]
  split
  · exact ⟨Char.ofNat 0x3C2, by simp, by decide⟩
  · obtain ⟨d, hd, hplain⟩ := exists_not_isPlain_of_mem_lowerChar h
    exact ⟨d, List.mem_append_left _ hd, hplain⟩

theorem lowerFrom_cons_of_lt {before s : List Char} {c : Char} (h : c.toNat < 0x80) :
    lowerFrom before (c :: s) = c.toLower :: lowerFrom (c :: before) s := by
  have hsigma : c.toNat ≠ 0x3A3 := by omega
  rw [lowerFrom, if_neg (fun hfinal ↦ hsigma hfinal.1), lowerChar, if_pos h]
  rfl

/-- Full and ASCII lower case agree on which texts become a word of plain characters. -/
theorem lowerFrom_eq_iff {word : List Char} (hword : ∀ d ∈ word, IsPlain d)
    (before s : List Char) : lowerFrom before s = word ↔ lowerAscii s = word := by
  induction s generalizing before word with
  | nil => exact Iff.rfl
  | cons c s ih =>
    by_cases hc : c.toNat < 0x80
    · rw [lowerFrom_cons_of_lt hc, lowerAscii, List.map_cons]
      cases word with
      | nil => simp
      | cons d word =>
        rw [List.cons.injEq, List.cons.injEq]
        exact and_congr Iff.rfl (ih (fun e he ↦ hword e (List.mem_cons_of_mem _ he)) _)
    · constructor
      · rintro rfl
        obtain ⟨d, hd, hplain⟩ := lowerFrom_cons_of_le before s (Nat.not_lt.mp hc)
        exact absurd (hword d hd) hplain
      · rintro rfl
        exact absurd (toNat_lt_of_toLower (hword c.toLower List.mem_cons_self).1) hc

theorem byteLength_lowerAscii (s : List Char) : byteLength (lowerAscii s) = byteLength s := by
  induction s with
  | nil => rfl
  | cons c s ih =>
    rw [lowerAscii, List.map_cons, byteLength_cons, byteLength_cons, utf8Size_toLower]
    exact congrArg (c.utf8Size + ·) ih

theorem lowercase_eq_iff {name word : String} (hword : ∀ d ∈ word.toList, IsPlain d) :
    lowercase name = word ↔ lowerAscii name.toList = word.toList := by
  rw [lowercase, ← lowerFrom_eq_iff hword [], ← String.toList_inj, String.toList_ofList]

/-- Only the empty text has the empty lower case. -/
theorem lowercase_eq_empty_iff {name : String} : lowercase name = "" ↔ name = "" := by
  rw [lowercase_eq_iff (by simp), lowerAscii, String.toList_empty, List.map_eq_nil_iff,
    String.toList_eq_nil_iff]

end Responsive.Text

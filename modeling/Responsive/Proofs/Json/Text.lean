import Responsive.Json.Outline
import Responsive.Json.Print

/-!
# Reading back texts in quotes

Every text is read back from its quoted form, whatever characters it has: each character is written
as itself or as an escape, and either is read as the one part that stands for the character.

* `readString_quote`: a quoted text is read back, and what follows it is left.
-/

set_option autoImplicit false
set_option relaxedAutoImplicit false

namespace Responsive.Json

/-- A unit that is no half of a surrogate pair stands for a character of its own. -/
theorem joinParts?_unit {n : Nat} (h : n < 0xD800) (parts : List StringPart) :
    joinParts? (.unit n :: parts) = (joinParts? parts).map (Char.ofNat n :: ·) := by
  have hhigh : isHighUnit n = false := by simp [isHighUnit]; omega
  have hlow : isLowUnit n = false := by simp [isLowUnit]; omega
  rcases parts with _ | ⟨_ | l, parts⟩
  · simp [joinParts?, hhigh, hlow]
  · simp [joinParts?, hhigh, hlow]
  · rw [joinParts?, hhigh, hlow]
    rfl

/-- A control character is written by its number in two hexadecimal digits. -/
theorem hexUnit?_hexDigit {n : Nat} (h : n < 0x20) :
    hexUnit? '0' '0' (hexDigit (n / 16)) (hexDigit (n % 16)) = some n := by
  revert n
  decide

section Parts

variable {c e : Char} {s : List Char}

theorem stringParts?_letter (he : e ≠ 'u') (hc : simpleEscape? e = some c) :
    stringParts? ('\\' :: e :: s) =
      (stringParts? s).map fun found ↦ (.char c :: found.1, found.2) := by
  rw [stringParts?.eq_def]
  split
  · contradiction
  next heq => simp at heq
  next heq =>
    simp only [List.cons.injEq] at heq
    exact absurd heq.2.1 he
  next heq =>
    simp only [List.cons.injEq] at heq
    obtain ⟨-, rfl, rfl⟩ := heq
    rw [hc]
    cases stringParts? s <;> rfl
  next hnot heq =>
    obtain ⟨hc, hs⟩ := List.cons.inj heq
    exact (hnot e s hc.symm hs.symm).elim

theorem stringParts?_unit {a b d : Char} {n : Nat} (h : hexUnit? a b c d = some n) :
    stringParts? ('\\' :: 'u' :: a :: b :: c :: d :: s) =
      (stringParts? s).map fun found ↦ (.unit n :: found.1, found.2) := by
  rw [stringParts?, h]
  cases stringParts? s <;> rfl

theorem stringParts?_plain (hquote : c ≠ '"') (hslash : c ≠ '\\') (hcontrol : ¬ c.toNat < 0x20) :
    stringParts? (c :: s) = (stringParts? s).map fun found ↦ (.char c :: found.1, found.2) := by
  rw [stringParts?.eq_def]
  split
  · contradiction
  next heq => exact absurd (List.cons.inj heq).1 hquote
  next heq => exact absurd (List.cons.inj heq).1 hslash
  next heq => exact absurd (List.cons.inj heq).1 hslash
  next heq =>
    obtain ⟨rfl, rfl⟩ := List.cons.inj heq
    rw [if_neg hcontrol]

/-- Each written character is read as one part, which stands for the character. -/
theorem exists_stringParts?_escapeChar (c : Char) (s : List Char) :
    ∃ part, stringParts? (escapeChar c ++ s) =
        (stringParts? s).map (fun found ↦ (part :: found.1, found.2)) ∧
      ∀ parts, joinParts? (part :: parts) = (joinParts? parts).map (c :: ·) := by
  have hletter {e c : Char} (he : e ≠ 'u') (hc : simpleEscape? e = some c) :
      ∃ part, stringParts? (['\\', e] ++ s) =
          (stringParts? s).map (fun found ↦ (part :: found.1, found.2)) ∧
        ∀ parts, joinParts? (part :: parts) = (joinParts? parts).map (c :: ·) :=
    ⟨.char c, stringParts?_letter he hc, fun _ ↦ rfl⟩
  unfold escapeChar
  split
  case h_8 hquote hslash _ _ _ _ _ =>
    split
    next hcontrol =>
      refine ⟨.unit c.toNat, stringParts?_unit (hexUnit?_hexDigit hcontrol), fun parts ↦ ?_⟩
      rw [joinParts?_unit (by omega), Char.ofNat_toNat]
    next hcontrol => exact ⟨.char c, stringParts?_plain hquote hslash hcontrol, fun _ ↦ rfl⟩
  all_goals exact hletter (by decide) rfl

end Parts

/-- A text in quotes is read back, and what follows it is left. -/
theorem readString_quote (s rest : List Char) :
    Outline.readString (s.flatMap escapeChar ++ '"' :: rest) =
      (.text (some (.ofList s)), some rest) := by
  have hparts : ∃ parts, stringParts? (s.flatMap escapeChar ++ '"' :: rest) = some (parts, rest) ∧
      joinParts? parts = some s := by
    induction s with
    | nil => exact ⟨[], by rw [List.flatMap_nil, List.nil_append, stringParts?], rfl⟩
    | cons c s ih =>
      obtain ⟨parts, hread, hjoin⟩ := ih
      obtain ⟨part, hpart, hstands⟩ :=
        exists_stringParts?_escapeChar c (s.flatMap escapeChar ++ '"' :: rest)
      refine ⟨part :: parts, ?_, ?_⟩
      · rw [List.flatMap_cons, List.append_assoc, hpart, hread]
        rfl
      · rw [hstands, hjoin]
        rfl
  obtain ⟨parts, hread, hjoin⟩ := hparts
  rw [Outline.readString, hread]
  dsimp only
  rw [hjoin, Option.map_some]

end Responsive.Json

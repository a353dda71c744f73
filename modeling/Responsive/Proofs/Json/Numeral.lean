import Mathlib.Data.List.TakeWhile
import Responsive.Json.Numeral
import Responsive.Json.Print
import Responsive.Proofs.Text.Digit
import Responsive.Proofs.Text.Occurrence

/-!
# Reading back numbers

A numeral ends where no character can continue it, so it is read the same whatever follows. Every
integer of at most 64 bits is read back from its text. A float is printed with the fewest digits
that determine it, but read with rounded steps, so it need not be read back as the same float.

* `Numeral.read?_append`: what follows a numeral does not change it.
* `readsBack_int`: integers are read back.
-/

set_option autoImplicit false
set_option relaxedAutoImplicit false

namespace Responsive.Json

open Text

/-- The number is read back from its text. -/
def Number.ReadsBack (n : Number) : Prop :=
  ∃ numeral, Numeral.read? n.text = some (numeral, []) ∧ numeral.value? = some n

namespace Numeral

/-- No numeral goes on with the text. -/
def Delimits (rest : List Char) : Prop :=
  ∀ c ∈ rest.head?, c.isDigit = false ∧ c ≠ '.' ∧ c ≠ 'e' ∧ c ≠ 'E'

theorem Delimits.not_digit {rest : List Char} (h : Delimits rest) :
    ∀ c ∈ rest.head?, c.isDigit = false :=
  fun c hc ↦ (h c hc).1

section Append

variable {s digits tail rest : List Char}

theorem digits?_eq_some_iff :
    digits? s = some (digits, tail) ↔
      digits ≠ [] ∧ s.takeWhile Char.isDigit = digits ∧ s.dropWhile Char.isDigit = tail := by
  rw [digits?]
  split
  next hnil =>
    rw [hnil]
    exact ⟨nofun, fun ⟨hne, heq, _⟩ ↦ absurd heq.symm hne⟩
  next hne =>
    rw [Option.some.injEq, Prod.mk.injEq]
    exact ⟨fun ⟨heq, htail⟩ ↦ ⟨heq ▸ hne, heq, htail⟩, And.right⟩

/-- Digits end where no digit follows. -/
theorem digits?_append (hrest : ∀ c ∈ rest.head?, c.isDigit = false)
    (h : digits? s = some (digits, tail)) :
    digits? (s ++ rest) = some (digits, tail ++ rest) := by
  obtain ⟨hne, htake, hdrop⟩ := digits?_eq_some_iff.mp h
  refine digits?_eq_some_iff.mpr ⟨hne, ?_, ?_⟩
  · rw [takeWhile_append_of_head? hrest, htake]
  · rw [dropWhile_append_of_head? hrest, hdrop]

theorem whole?_eq_some_iff :
    whole? s = some (digits, tail) ↔
      digits? s = some (digits, tail) ∧ ∀ c more, digits ≠ '0' :: c :: more := by
  rw [whole?]
  split
  next hzero =>
    rw [hzero, Option.some.injEq, Prod.mk.injEq]
    exact ⟨nofun, fun ⟨⟨heq, _⟩, hne⟩ ↦ absurd heq.symm (hne _ _)⟩
  next hne =>
    refine ⟨fun h ↦ ⟨h, ?_⟩, And.left⟩
    rintro c more rfl
    exact hne c more tail h

theorem whole?_append (hrest : ∀ c ∈ rest.head?, c.isDigit = false)
    (h : whole? s = some (digits, tail)) :
    whole? (s ++ rest) = some (digits, tail ++ rest) := by
  obtain ⟨hdigits, hzero⟩ := whole?_eq_some_iff.mp h
  exact whole?_eq_some_iff.mpr ⟨digits?_append hrest hdigits, hzero⟩

theorem fraction?_eq_nil (h : ∀ c ∈ s.head?, c ≠ '.') : fraction? s = some ([], s) := by
  rw [fraction?.eq_def]
  split
  · exact absurd rfl (h '.' rfl)
  · rfl

theorem fraction?_append (hrest : Delimits rest) (h : fraction? s = some (digits, tail)) :
    fraction? (s ++ rest) = some (digits, tail ++ rest) := by
  cases s with
  | nil =>
    obtain ⟨rfl, rfl⟩ := Prod.mk.inj (Option.some.inj h)
    exact fraction?_eq_nil fun c hc ↦ (hrest c hc).2.1
  | cons c s =>
    by_cases hc : c = '.'
    · subst hc
      exact digits?_append hrest.not_digit h
    · have hhead (t : List Char) : ∀ d ∈ (c :: t).head?, d ≠ '.' := by
        rintro d hd rfl
        exact hc (Option.some.inj hd)
      rw [fraction?_eq_nil (hhead s)] at h
      obtain ⟨rfl, rfl⟩ := Prod.mk.inj (Option.some.inj h)
      exact fraction?_eq_nil (hhead _)

theorem signedDigits?_append {signed : Bool × List Char} (hrest : Delimits rest)
    (h : signedDigits? s = some (signed, tail)) :
    signedDigits? (s ++ rest) = some (signed, tail ++ rest) := by
  have hmap {t : List Char} {sign : Bool}
      (ht : (digits? t).map (fun found ↦ ((sign, found.1), found.2)) = some (signed, tail)) :
      (digits? (t ++ rest)).map (fun found ↦ ((sign, found.1), found.2)) =
        some (signed, tail ++ rest) := by
    obtain ⟨⟨digits, rest'⟩, hdigits, heq⟩ := Option.map_eq_some_iff.mp ht
    obtain ⟨rfl, rfl⟩ := Prod.mk.inj heq
    rw [digits?_append hrest.not_digit hdigits]
    rfl
  rw [signedDigits?.eq_def] at h
  split at h
  · exact hmap h
  · exact hmap h
  next hplus hminus =>
    have happend := hmap h
    cases s with
    | nil => contradiction
    | cons c s =>
      rw [List.cons_append] at happend ⊢
      rw [signedDigits?.eq_def]
      split
      next heq => exact absurd (congrArg (· :: s) (List.cons.inj heq).1) (hplus s)
      next heq => exact absurd (congrArg (· :: s) (List.cons.inj heq).1) (hminus s)
      · exact happend

theorem exponent?_eq_none (h : ∀ c ∈ s.head?, c ≠ 'e' ∧ c ≠ 'E') :
    exponent? s = some (none, s) := by
  rw [exponent?.eq_def]
  split
  · exact absurd rfl (h 'e' rfl).1
  · exact absurd rfl (h 'E' rfl).2
  · rfl

theorem exponent?_append {exponent : Option (Bool × List Char)} (hrest : Delimits rest)
    (h : exponent? s = some (exponent, tail)) :
    exponent? (s ++ rest) = some (exponent, tail ++ rest) := by
  have hmap {t : List Char}
      (ht : (signedDigits? t).map (fun found ↦ (some found.1, found.2)) = some (exponent, tail)) :
      (signedDigits? (t ++ rest)).map (fun found ↦ (some found.1, found.2)) =
        some (exponent, tail ++ rest) := by
    obtain ⟨⟨signed, rest'⟩, hsigned, heq⟩ := Option.map_eq_some_iff.mp ht
    obtain ⟨rfl, rfl⟩ := Prod.mk.inj heq
    rw [signedDigits?_append hrest hsigned]
    rfl
  rw [exponent?.eq_def] at h
  split at h
  · exact hmap h
  · exact hmap h
  next hlower hupper =>
    obtain ⟨rfl, rfl⟩ := Prod.mk.inj (Option.some.inj h)
    refine exponent?_eq_none fun c hc ↦ ?_
    cases s with
    | nil => exact (hrest c hc).2.2
    | cons d s =>
      obtain rfl : d = c := Option.some.inj hc
      exact ⟨fun heq ↦ hlower s (heq ▸ rfl), fun heq ↦ hupper s (heq ▸ rfl)⟩

theorem unsigned?_eq_some_iff {negative : Bool} {numeral : Numeral} :
    unsigned? negative s = some (numeral, tail) ↔
      numeral.negative = negative ∧ ∃ t u, whole? s = some (numeral.whole, t) ∧
        fraction? t = some (numeral.fraction, u) ∧ exponent? u = some (numeral.exponent, tail) := by
  obtain ⟨sign, whole, fraction, exponent⟩ := numeral
  constructor
  · intro h
    obtain ⟨⟨whole', t⟩, hwhole, h⟩ := Option.bind_eq_some_iff.mp h
    obtain ⟨⟨fraction', u⟩, hfraction, h⟩ := Option.bind_eq_some_iff.mp h
    obtain ⟨⟨exponent', v⟩, hexponent, h⟩ := Option.bind_eq_some_iff.mp h
    obtain ⟨hnumeral, rfl⟩ := Prod.mk.inj (Option.some.inj h)
    obtain ⟨rfl, rfl, rfl, rfl⟩ := Numeral.mk.inj hnumeral
    exact ⟨rfl, t, u, hwhole, hfraction, hexponent⟩
  · rintro ⟨rfl, t, u, hwhole, hfraction, hexponent⟩
    dsimp only at hwhole hfraction hexponent
    simp [unsigned?, hwhole, hfraction, hexponent]

theorem unsigned?_append {negative : Bool} {numeral : Numeral} (hrest : Delimits rest)
    (h : unsigned? negative s = some (numeral, tail)) :
    unsigned? negative (s ++ rest) = some (numeral, tail ++ rest) := by
  obtain ⟨hsign, t, u, hwhole, hfraction, hexponent⟩ := unsigned?_eq_some_iff.mp h
  exact unsigned?_eq_some_iff.mpr ⟨hsign, t ++ rest, u ++ rest,
    whole?_append hrest.not_digit hwhole, fraction?_append hrest hfraction,
    exponent?_append hrest hexponent⟩

theorem read?_of_ne (h : ∀ c ∈ s.head?, c ≠ '-') : read? s = unsigned? false s := by
  rw [read?.eq_def]
  split
  · exact absurd rfl (h '-' rfl)
  · rfl

/-- What follows a numeral does not change it. -/
theorem read?_append {numeral : Numeral} (hrest : Delimits rest)
    (h : read? s = some (numeral, tail)) : read? (s ++ rest) = some (numeral, tail ++ rest) := by
  cases s with
  | nil => contradiction
  | cons c s =>
    by_cases hc : c = '-'
    · subst hc
      exact unsigned?_append hrest h
    · have hhead (t : List Char) : ∀ d ∈ (c :: t).head?, d ≠ '-' := by
        rintro d hd rfl
        exact hc (Option.some.inj hd)
      rw [read?_of_ne (hhead s)] at h
      rw [List.cons_append, read?_of_ne (hhead _)]
      exact unsigned?_append hrest h

/-- A numeral begins with a sign or a digit. -/
theorem head_of_read?_eq_some {numeral : Numeral} (h : read? s = some (numeral, tail)) :
    ∃ c t, s = c :: t ∧ (c = '-' ∨ c.isDigit = true) := by
  cases s with
  | nil => contradiction
  | cons c s =>
    refine ⟨c, s, rfl, Decidable.or_iff_not_imp_left.mpr fun hc ↦ ?_⟩
    have hhead : ∀ d ∈ (c :: s).head?, d ≠ '-' := by
      rintro d hd rfl
      exact hc (Option.some.inj hd)
    rw [read?_of_ne hhead] at h
    obtain ⟨-, t, u, hwhole, -⟩ := unsigned?_eq_some_iff.mp h
    obtain ⟨hne, htake, -⟩ := digits?_eq_some_iff.mp (whole?_eq_some_iff.mp hwhole).1
    cases hdigit : c.isDigit with
    | true => rfl
    | false =>
      rw [List.takeWhile_cons_of_neg (by simp [hdigit])] at htake
      exact absurd htake.symm hne

end Append

/-! ### Spelling numerals -/

/-- A run of digits. -/
structure IsRun (digits : List Char) : Prop where
  ne_nil : digits ≠ []
  isDigit : ∀ c ∈ digits, c.isDigit = true

theorem digits?_of_isRun {digits rest : List Char} (h : IsRun digits)
    (hrest : ∀ c ∈ rest.head?, c.isDigit = false) :
    digits? (digits ++ rest) = some (digits, rest) :=
  digits?_append hrest <| digits?_eq_some_iff.mpr
    ⟨h.ne_nil, List.takeWhile_eq_self_iff.mpr h.isDigit, List.dropWhile_eq_nil_iff.mpr h.isDigit⟩

/-- The parts of the numeral are those of a text. -/
structure WellFormed (n : Numeral) : Prop where
  whole : IsRun n.whole
  no_zero : ∀ c more, n.whole ≠ '0' :: c :: more
  fraction : ∀ c ∈ n.fraction, c.isDigit = true
  exponent : ∀ exponent ∈ n.exponent, IsRun exponent.2

/-- The text of a fraction. -/
def fractionText (fraction : List Char) : List Char :=
  if fraction.isEmpty then [] else '.' :: fraction

/-- The text of an exponent, which always has a sign. -/
def exponentText : Option (Bool × List Char) → List Char
  | none => []
  | some (below, digits) => 'e' :: (if below then '-' else '+') :: digits

/-- The text of a numeral. -/
def text (n : Numeral) : List Char :=
  (if n.negative then ['-'] else []) ++
    (n.whole ++ (fractionText n.fraction ++ exponentText n.exponent))

theorem head_exponentText (exponent : Option (Bool × List Char)) :
    ∀ c ∈ (exponentText exponent).head?, c = 'e' := by
  cases exponent with
  | none => nofun
  | some exponent => exact fun c hc ↦ (Option.some.inj hc).symm

theorem exponent?_exponentText {exponent : Option (Bool × List Char)}
    (h : ∀ signed ∈ exponent, IsRun signed.2) :
    exponent? (exponentText exponent) = some (exponent, []) := by
  cases exponent with
  | none => rfl
  | some signed =>
    obtain ⟨below, digits⟩ := signed
    have hdigits : digits? (digits ++ []) = some (digits, []) := digits?_of_isRun (h _ rfl) nofun
    rw [List.append_nil] at hdigits
    cases below with
    | true =>
      change ((digits? digits).map _).map _ = _
      rw [hdigits]
      rfl
    | false =>
      change ((digits? digits).map _).map _ = _
      rw [hdigits]
      rfl

/-- Behind the whole part of a numeral its digits do not go on. -/
theorem head_fraction_exponentText (fraction : List Char) (exponent : Option (Bool × List Char)) :
    ∀ c ∈ (fractionText fraction ++ exponentText exponent).head?, c.isDigit = false := by
  intro c hc
  rw [fractionText] at hc
  split at hc
  · rw [head_exponentText _ c hc]
    decide
  · rw [← Option.some.inj hc]
    decide

theorem fraction?_fractionText {fraction : List Char} (h : ∀ c ∈ fraction, c.isDigit = true)
    (exponent : Option (Bool × List Char)) :
    fraction? (fractionText fraction ++ exponentText exponent) =
      some (fraction, exponentText exponent) := by
  rw [fractionText]
  split
  next hnil =>
    rw [List.isEmpty_iff.mp hnil]
    refine fraction?_eq_nil fun c hc ↦ ?_
    rw [head_exponentText _ c hc]
    decide
  next hne =>
    refine digits?_of_isRun ⟨by simpa using hne, h⟩ fun c hc ↦ ?_
    rw [head_exponentText _ c hc]
    decide

/-- A numeral is read off its text. -/
theorem read?_text {n : Numeral} (h : n.WellFormed) : read? n.text = some (n, []) := by
  have hwhole := digits?_of_isRun h.whole (head_fraction_exponentText n.fraction n.exponent)
  have hunsigned : unsigned? n.negative
      (n.whole ++ (fractionText n.fraction ++ exponentText n.exponent)) = some (n, []) :=
    unsigned?_eq_some_iff.mpr ⟨rfl, _, _, whole?_eq_some_iff.mpr ⟨hwhole, h.no_zero⟩,
      fraction?_fractionText h.fraction n.exponent, exponent?_exponentText h.exponent⟩
  rw [text]
  cases hsign : n.negative with
  | true =>
    rw [hsign] at hunsigned
    exact hunsigned
  | false =>
    rw [hsign] at hunsigned
    refine (read?_of_ne fun c hc ↦ ?_).trans hunsigned
    have hdigit : c.isDigit = true := by
      obtain ⟨first, rest, hwhole⟩ := List.exists_cons_of_ne_nil h.whole.ne_nil
      rw [hwhole] at hc
      rw [← Option.some.inj hc]
      exact h.whole.isDigit first (hwhole ▸ List.mem_cons_self)
    rintro rfl
    exact absurd hdigit (by decide)

/-! ### Integers -/

theorem decimalNat_of_lt {n : Nat} (h : n < 10) : decimalNat n = [Nat.digitChar n] :=
  Nat.toDigits_of_lt_base h

theorem decimalNat_of_le {n : Nat} (h : 10 ≤ n) :
    decimalNat n = decimalNat (n / 10) ++ [Nat.digitChar (n % 10)] :=
  Nat.toDigits_of_base_le (by decide) h

theorem digitChar_toNat {n : Nat} (h : n < 10) : (Nat.digitChar n).toNat = n + 48 := by
  revert n
  decide

/-- A number other than zero does not begin with a zero. -/
theorem head?_decimalNat_ne {n : Nat} (h : n ≠ 0) : (decimalNat n).head? ≠ some '0' := by
  induction n using Nat.strongRecOn with
  | ind n ih =>
    by_cases hsmall : n < 10
    · rw [decimalNat_of_lt hsmall]
      intro hzero
      have hcode := congrArg Char.toNat (Option.some.inj hzero)
      rw [digitChar_toNat hsmall] at hcode
      have hzero : '0'.toNat = 48 := rfl
      omega
    · have hlead := ih (n / 10) (by omega) (by omega)
      rw [decimalNat_of_le (by omega)]
      cases hdigits : decimalNat (n / 10) with
      | nil => exact absurd hdigits (decimalNat_ne_nil _)
      | cons c digits =>
        rw [hdigits] at hlead
        exact hlead

theorem collect_append {word : Nat} {a b : List Char} {found : Nat}
    (h : collect word a = (found, [])) : collect word (a ++ b) = collect found b := by
  induction a generalizing word with
  | nil =>
    obtain ⟨rfl, -⟩ := Prod.mk.inj h
    rfl
  | cons c a ih =>
    rw [List.cons_append, collect]
    rw [collect] at h
    split at h
    · simp at h
    next hfits =>
      rw [if_neg hfits]
      exact ih h

theorem collect_decimalNat {n : Nat} (h : n < wordLimit) : collect 0 (decimalNat n) = (n, []) := by
  have hlast {word digit : Nat} (hdigit : digit < 10) (hfits : 10 * word + digit < wordLimit) :
      collect word [Nat.digitChar digit] = (10 * word + digit, []) := by
    have hcode := digitChar_toNat hdigit
    rw [collect, hcode, Nat.add_sub_cancel, if_neg (by omega), collect]
  induction n using Nat.strongRecOn with
  | ind n ih =>
    by_cases hsmall : n < 10
    · rw [decimalNat_of_lt hsmall, hlast hsmall (by omega)]
      simp
    · rw [decimalNat_of_le (by omega), collect_append (ih (n / 10) (by omega) (by omega)),
        hlast (by omega) (by omega)]
      congr 1
      omega

theorem isRun_decimalNat (n : Nat) : IsRun (decimalNat n) :=
  ⟨decimalNat_ne_nil n, fun _ ↦ isDigit_of_mem_decimalNat⟩

/-- The numeral of an integer. -/
def ofInt : Int → Numeral
  | .ofNat n => ⟨false, decimalNat n, [], none⟩
  | .negSucc n => ⟨true, decimalNat (n + 1), [], none⟩

theorem text_ofInt (n : Int) : (ofInt n).text = decimal n := by
  cases n <;> simp [ofInt, text, fractionText, exponentText, decimal]

theorem wellFormed_ofInt (n : Int) : (ofInt n).WellFormed := by
  have hzero (n : Nat) (c : Char) (more : List Char) : decimalNat n ≠ '0' :: c :: more := by
    intro heq
    by_cases hn : n = 0
    · subst hn
      exact absurd heq (by simp [decimalNat])
    · exact head?_decimalNat_ne hn (congrArg List.head? heq)
  cases n with
  | ofNat n => exact ⟨isRun_decimalNat n, hzero n, by simp [ofInt], by simp [ofInt]⟩
  | negSucc n => exact ⟨isRun_decimalNat (n + 1), hzero (n + 1), by simp [ofInt], by simp [ofInt]⟩

end Numeral

/-- Every integer of at most 64 bits is read back from its text. -/
theorem readsBack_int {n : Int} (hlow : -Nat.pow 2 63 ≤ n) (hhigh : n < Nat.pow 2 64) :
    (Number.int n).ReadsBack := by
  refine ⟨.ofInt n, ?_, ?_⟩
  · rw [Number.text, ← Numeral.text_ofInt]
    exact Numeral.read?_text (Numeral.wellFormed_ofInt n)
  cases n with
  | ofNat n =>
    have hfits : n < Numeral.wordLimit := by
      rw [Numeral.wordLimit]
      exact Int.ofNat_lt.mp hhigh
    rw [Numeral.ofInt, Numeral.value?, Numeral.collect_decimalNat hfits]
    rfl
  | negSucc n =>
    have hbound : n + 1 ≤ Nat.pow 2 63 := by omega
    have hlimit : Nat.pow 2 63 < Numeral.wordLimit := by decide
    rw [Numeral.ofInt, Numeral.value?, Numeral.collect_decimalNat (by omega)]
    have hsmall : ¬ (n + 1 = 0 ∨ Nat.pow 2 63 < n + 1) := by omega
    simp only [List.isEmpty_nil, Option.isNone_none, Bool.and_self, if_true, Bool.not_true,
      Bool.false_eq_true, if_false, if_neg hsmall]
    rfl

end Responsive.Json

import Responsive.Json.Decode
import Responsive.Proofs.Entries
import Responsive.Proofs.Json.Float
import Responsive.Proofs.Json.Text

/-!
# Reading back what was printed

Whatever value is printed, its text has the outline of the value, up to its numbers: a float may be
read as another one, and what is no number is printed as `null`. So a value is read back from its
indented text if and only if all its numbers are read back from theirs and its containers do not
nest deeper than the reader goes. The printer knows no such bound: a value that nests deeper is
printed like any other, and its text is refused.

* `readValue_prettyChars`: the outline of a printed value.
* `value?_printed_eq_some_iff`: when an outline has the value that was printed.
* `read?_pretty_eq_some_iff`: both together.
* `ordered_of_read?_eq_some`: what is read has its names in order and nests no deeper than that.
-/

set_option autoImplicit false
set_option relaxedAutoImplicit false

namespace Responsive.Json

open Outline

mutual

/-- All names in the value stand in order. -/
def Ordered : Json → Prop
  | array items => OrderedItems items
  | object members => Entries.Ordered members ∧ OrderedMembers members
  | _ => True

/-- All items have their names in order. -/
def OrderedItems : List Json → Prop
  | [] => True
  | item :: items => Ordered item ∧ OrderedItems items

/-- The values of all members have their names in order. -/
def OrderedMembers : List (String × Json) → Prop
  | [] => True
  | (_, value) :: members => Ordered value ∧ OrderedMembers members

end

mutual

/-- All numbers in the value are read back from their texts. -/
def Legible : Json → Prop
  | number n => n.ReadsBack
  | array items => LegibleItems items
  | object members => LegibleMembers members
  | _ => True

/-- All items are legible. -/
def LegibleItems : List Json → Prop
  | [] => True
  | item :: items => Legible item ∧ LegibleItems items

/-- All members have legible values. -/
def LegibleMembers : List (String × Json) → Prop
  | [] => True
  | (_, value) :: members => Legible value ∧ LegibleMembers members

end

mutual

/-- Whether a value is legible can be computed. -/
def decidableLegible : (v : Json) → Decidable v.Legible
  | number n => inferInstanceAs (Decidable n.ReadsBack)
  | array items => decidableLegibleItems items
  | object members => decidableLegibleMembers members
  | null => isTrue trivial
  | bool _ => isTrue trivial
  | text _ => isTrue trivial

/-- Whether items are legible can be computed. -/
def decidableLegibleItems : (items : List Json) → Decidable (LegibleItems items)
  | [] => isTrue trivial
  | item :: items => @instDecidableAnd _ _ (decidableLegible item) (decidableLegibleItems items)

/-- Whether members are legible can be computed. -/
def decidableLegibleMembers : (members : List (String × Json)) → Decidable (LegibleMembers members)
  | [] => isTrue trivial
  | (_, value) :: members =>
    @instDecidableAnd _ _ (decidableLegible value) (decidableLegibleMembers members)

end

instance : DecidablePred Legible := decidableLegible

mutual

/-- The outline of the text of a value. -/
def Outline.printed : Json → Outline
  | .null => null
  | .bool b => bool b
  | .number n => if n.isFinite then number n.reread else null
  | .text s => text (some s)
  | .array items => array (printedItems items) true
  | .object members => object (printedMembers members) true

/-- The outlines of the texts of items. -/
def Outline.printedItems : List Json → List Outline
  | [] => []
  | item :: items => printed item :: printedItems items

/-- The outlines of the texts of members. -/
def Outline.printedMembers : List (String × Json) → List (Outline × Outline)
  | [] => []
  | (name, value) :: members => (text (some name), printed value) :: printedMembers members

end

theorem orderedMembers_iff {members : List (String × Json)} :
    OrderedMembers members ↔ ∀ member ∈ members, member.2.Ordered := by
  induction members with
  | nil => exact ⟨nofun, fun _ ↦ trivial⟩
  | cons member members ih => rw [OrderedMembers, ih, List.forall_mem_cons]

theorem legibleMembers_iff {members : List (String × Json)} :
    LegibleMembers members ↔ ∀ member ∈ members, member.2.Legible := by
  induction members with
  | nil => exact ⟨nofun, fun _ ↦ trivial⟩
  | cons member members ih => rw [LegibleMembers, ih, List.forall_mem_cons]

theorem membersDepth_lt_iff {members : List (String × Json)} {bound : Nat} (hbound : 0 < bound) :
    membersDepth members < bound ↔ ∀ member ∈ members, member.2.depth < bound := by
  induction members with
  | nil => exact ⟨nofun, fun _ ↦ hbound⟩
  | cons member members ih => rw [membersDepth, Nat.max_lt, ih, List.forall_mem_cons]

/-! ### White space -/

theorem skipSpace_cons_of_space {c : Char} (h : isSpace c = true) (s : List Char) :
    skipSpace (c :: s) = skipSpace s :=
  List.dropWhile_cons_of_pos h

theorem skipSpace_cons {c : Char} (h : isSpace c = false) (s : List Char) :
    skipSpace (c :: s) = c :: s :=
  List.dropWhile_cons_of_neg (by simp [h])

theorem skipSpace_newline (level : Nat) (s : List Char) :
    skipSpace (newline level ++ s) = skipSpace s := by
  have hspaces (n : Nat) : skipSpace (List.replicate n ' ' ++ s) = skipSpace s := by
    induction n with
    | zero => rfl
    | succ n ih => exact (skipSpace_cons_of_space rfl _).trans ih
  exact (skipSpace_cons_of_space rfl _).trans (hspaces _)

theorem skipSpace_skipSpace (s : List Char) : skipSpace (skipSpace s) = skipSpace s := by
  induction s with
  | nil => rfl
  | cons c s ih =>
    cases hc : isSpace c with
    | true => rw [skipSpace_cons_of_space hc, ih]
    | false => rw [skipSpace_cons hc, skipSpace_cons hc]

theorem isSpace_eq_false_of_isDigit {c : Char} (h : c.isDigit = true) : isSpace c = false := by
  rw [Bool.eq_false_iff]
  intro hspace
  simp only [isSpace, Bool.or_eq_true, beq_iff_eq] at hspace
  rcases hspace with ((rfl | rfl) | rfl) | rfl <;> exact absurd h (by decide)

/-- White space in front of a value does not matter. -/
theorem readValue_congr {s t : List Char} (h : skipSpace s = skipSpace t) (fuel : Nat) :
    readValue fuel s = readValue fuel t := by
  cases fuel with
  | zero => rfl
  | succ fuel => rw [readValue, readValue, h]

theorem readItems_skipSpace (fuel : Nat) (s : List Char) :
    readItems fuel (skipSpace s) = readItems fuel s := by
  cases fuel with
  | zero => rfl
  | succ fuel => rw [readItems, readItems, readValue_congr (skipSpace_skipSpace s)]

theorem readMembers_skipSpace (fuel : Nat) (s : List Char) :
    readMembers fuel (skipSpace s) = readMembers fuel s := by
  cases fuel with
  | zero => rfl
  | succ fuel => rw [readMembers, readMembers, readValue_congr (skipSpace_skipSpace s)]

/-! ### Outlines of printed values -/

theorem block_eq_cons (opening closing : Char) (level : Nat) (parts : List (List Char)) :
    ∃ s, block opening closing level parts = opening :: s := by
  rw [block]
  split
  · exact ⟨_, rfl⟩
  · exact ⟨_, rfl⟩

/-- A printed value begins neither with white space nor with a closing bracket. -/
theorem head_prettyChars (v : Json) (level : Nat) :
    ∃ c s, v.prettyChars level = c :: s ∧ isSpace c = false ∧ c ≠ ']' ∧ c ≠ '\x7d' := by
  cases v with
  | null => exact ⟨'n', _, rfl, by decide⟩
  | bool b => cases b <;> exact ⟨_, _, rfl, by decide⟩
  | number n =>
    cases hfinite : n.isFinite with
    | false => exact ⟨'n', _, Number.text_eq_null hfinite, by decide⟩
    | true =>
      obtain ⟨numeral, hread⟩ := Number.exists_read?_text hfinite
      obtain ⟨c, s, heq, hc⟩ := Numeral.head_of_read?_eq_some hread
      refine ⟨c, s, heq, ?_⟩
      rcases hc with rfl | hdigit
      · decide
      · refine ⟨?_, ?_, ?_⟩
        · exact isSpace_eq_false_of_isDigit hdigit
        · rintro rfl
          exact absurd hdigit (by decide)
        · rintro rfl
          exact absurd hdigit (by decide)
  | text s => exact ⟨'"', _, rfl, by decide⟩
  | array items =>
    obtain ⟨s, hs⟩ := block_eq_cons '[' ']' level (prettyItems level items)
    exact ⟨'[', s, hs, by decide⟩
  | object members =>
    obtain ⟨s, hs⟩ := block_eq_cons '\x7b' '\x7d' level (prettyMembers level members)
    exact ⟨'\x7b', s, hs, by decide⟩

/-- What may follow a printed value: a comma, white space or nothing. -/
theorem delimits_cons {c : Char} (h : c.isDigit = false ∧ c ≠ '.' ∧ c ≠ 'e' ∧ c ≠ 'E')
    (s : List Char) : Numeral.Delimits (c :: s) := by
  intro d hd
  obtain rfl : c = d := Option.some.inj hd
  exact h

theorem delimits_newline (level : Nat) (s : List Char) : Numeral.Delimits (newline level ++ s) :=
  delimits_cons (c := '\n') (by decide) _

/-- What begins with a digit or a sign is read as a number. -/
theorem readValue_of_number {n : Number} (h : n.isFinite = true) {rest : List Char}
    (hrest : Numeral.Delimits rest) (fuel : Nat) :
    readValue (fuel + 1) (n.text ++ rest) = (.number n.reread, some rest) := by
  obtain ⟨numeral, hread⟩ := Number.exists_read?_text h
  obtain ⟨c, s, heq, hc⟩ := Numeral.head_of_read?_eq_some hread
  have hspace : isSpace c = false := by
    rcases hc with rfl | hdigit
    · decide
    · exact isSpace_eq_false_of_isDigit hdigit
  have hne {d : Char} (hd : d ≠ '-' ∧ d.isDigit = false) : c ≠ d := by
    rintro rfl
    rcases hc with rfl | hdigit
    · exact hd.1 rfl
    · exact absurd (hdigit.symm.trans hd.2) (by decide)
  have hnumber : readNumber (n.text ++ rest) = (.number n.reread, some rest) := by
    rw [readNumber, Numeral.read?_append hrest hread, Number.reread, hread]
    rfl
  rw [heq, List.cons_append] at hnumber ⊢
  rw [readValue, skipSpace_cons hspace]
  split
  case h_7 => exact hnumber
  all_goals
    rename_i hmatch
    exact absurd (List.cons.inj hmatch).1 (hne (by decide))

theorem readValue_of_quote (s rest : List Char) (fuel : Nat) :
    readValue (fuel + 1) (quote s ++ rest) = (.text (some (.ofList s)), some rest) := by
  have htext : quote s ++ rest = '"' :: (s.flatMap escapeChar ++ '"' :: rest) := by simp [quote]
  rw [htext, readValue, skipSpace_cons (by decide)]
  exact readString_quote s rest

/-- Behind an opening bracket that is not closed at once the items are read. -/
theorem readValue_bracket {s tail : List Char} {c : Char} (hskip : skipSpace s = c :: tail)
    (hc : c ≠ ']') (fuel : Nat) :
    readValue (fuel + 1) ('[' :: s) =
      (.array (readItems fuel s).1 (readItems fuel s).2.isSome, (readItems fuel s).2) := by
  rw [← readItems_skipSpace, readValue, skipSpace_cons (by decide)]
  simp only [hskip]
  split
  next heq => exact absurd (List.cons.inj heq).1 hc
  next => rfl

/-- Behind an opening brace that is not closed at once the members are read. -/
theorem readValue_brace {s tail : List Char} {c : Char} (hskip : skipSpace s = c :: tail)
    (hc : c ≠ '\x7d') (fuel : Nat) :
    readValue (fuel + 1) ('\x7b' :: s) =
      (.object (readMembers fuel s).1 (readMembers fuel s).2.isSome, (readMembers fuel s).2) := by
  rw [← readMembers_skipSpace, readValue, skipSpace_cons (by decide)]
  simp only [hskip]
  split
  next heq => exact absurd (List.cons.inj heq).1 hc
  next => rfl

section Member

variable {fuel : Nat} {name s tail : List Char} {value : Outline}

/-- A member begins with its name. -/
theorem readValue_name (level : Nat) (hfuel : fuel ≠ 0) :
    readValue fuel (newline level ++ (quote name ++ ':' :: ' ' :: s)) =
      (.text (some (.ofList name)), some (':' :: ' ' :: s)) := by
  obtain ⟨fuel, rfl⟩ := Nat.exists_eq_succ_of_ne_zero hfuel
  rw [readValue_congr (skipSpace_newline _ _)]
  exact readValue_of_quote name _ fuel

/-- The last member of an object. -/
theorem readMembers_last {rest : List Char} (level : Nat) (hfuel : fuel ≠ 0)
    (hvalue : readValue fuel s = (value, some tail)) (htail : skipSpace tail = '\x7d' :: rest) :
    readMembers (fuel + 1) (newline level ++ (quote name ++ ':' :: ' ' :: s)) =
      ([(.text (some (.ofList name)), value)], some rest) := by
  have hspaced : readValue fuel (' ' :: s) = (value, some tail) := by
    rw [readValue_congr (skipSpace_cons_of_space rfl s), hvalue]
  rw [readMembers, readValue_name level hfuel]
  dsimp only
  rw [skipSpace_cons (by decide)]
  simp only [hspaced, htail]

/-- A member in front of others. -/
theorem readMembers_next {more : List Char} (level : Nat) (hfuel : fuel ≠ 0)
    (hvalue : readValue fuel s = (value, some tail)) (htail : skipSpace tail = ',' :: more) :
    readMembers (fuel + 1) (newline level ++ (quote name ++ ':' :: ' ' :: s)) =
      ((.text (some (.ofList name)), value) :: (readMembers fuel more).1,
        (readMembers fuel more).2) := by
  have hspaced : readValue fuel (' ' :: s) = (value, some tail) := by
    rw [readValue_congr (skipSpace_cons_of_space rfl s), hvalue]
  rw [readMembers, readValue_name level hfuel]
  dsimp only
  rw [skipSpace_cons (by decide)]
  simp only [hspaced, htail]

end Member

/-- Printed parts between brackets, one to a line, in front of a closing bracket and more text. -/
def lines (level : Nat) (closing : Char) (rest : List Char) : List (List Char) → List Char
  | [] => newline level ++ closing :: rest
  | [part] => newline (level + 1) ++ part ++ (newline level ++ closing :: rest)
  | part :: parts => newline (level + 1) ++ part ++ ',' :: lines level closing rest parts

theorem lines_cons_cons (level : Nat) (closing : Char) (rest part next : List Char)
    (parts : List (List Char)) :
    lines level closing rest (part :: next :: parts) =
      newline (level + 1) ++ part ++ ',' :: lines level closing rest (next :: parts) := rfl

/-- The first character behind the opening bracket is that of the first part. -/
theorem skipSpace_lines (level : Nat) (closing : Char) (rest : List Char) {part s : List Char}
    {c : Char} (hpart : part = c :: s) (hc : isSpace c = false) (parts : List (List Char)) :
    ∃ tail, skipSpace (lines level closing rest (part :: parts)) = c :: tail := by
  subst hpart
  cases parts with
  | nil =>
    refine ⟨s ++ (newline level ++ closing :: rest), ?_⟩
    rw [lines, List.append_assoc, skipSpace_newline]
    exact skipSpace_cons hc _
  | cons next parts =>
    refine ⟨s ++ ',' :: lines level closing rest (next :: parts), ?_⟩
    rw [lines_cons_cons, List.append_assoc, skipSpace_newline]
    exact skipSpace_cons hc _

theorem block_append_eq (opening closing : Char) (level : Nat) {parts : List (List Char)}
    (h : parts ≠ []) (rest : List Char) :
    block opening closing level parts ++ rest = opening :: lines level closing rest parts := by
  have hlines : commaJoin (parts.map (newline (level + 1) ++ ·)) ++
      (newline level ++ closing :: rest) = lines level closing rest parts := by
    induction parts with
    | nil => contradiction
    | cons part parts ih =>
      cases parts with
      | nil => simp [commaJoin, lines]
      | cons next parts =>
        rw [lines_cons_cons, ← ih (List.cons_ne_nil _ _)]
        simp [commaJoin, List.intercalate]
  rw [← hlines, block, if_neg (by simpa using h)]
  simp

mutual

/-- The outline of a printed value. -/
theorem readValue_prettyChars (v : Json) (h : v.Ordered) (level fuel : Nat) (rest : List Char)
    (hrest : Numeral.Delimits rest) (hfuel : 2 * (v.prettyChars level ++ rest).length + 2 ≤ fuel) :
    readValue fuel (v.prettyChars level ++ rest) = (printed v, some rest) := by
  -- Twice the length of what is left bounds the recursion: from one character to the next the
  -- reader goes at most two steps down.
  cases fuel with
  | zero => omega
  | succ fuel =>
    cases v with
    | null => rfl
    | bool b => cases b <;> rfl
    | number n =>
      cases hfinite : n.isFinite with
      | true =>
        rw [printed, if_pos hfinite]
        exact readValue_of_number hfinite hrest fuel
      | false =>
        rw [printed, if_neg (by simp [hfinite]), prettyChars, Number.text_eq_null hfinite]
        rfl
    | text s =>
      have hread := readValue_of_quote s.toList rest fuel
      rwa [String.ofList_toList] at hread
    | array items =>
      cases items with
      | nil => rfl
      | cons item items =>
        obtain ⟨c, s, hhead, hspace, hbracket, -⟩ := head_prettyChars item (level + 1)
        have hparts : prettyItems level (item :: items) ≠ [] := List.cons_ne_nil _ _
        have htext := block_append_eq '[' ']' level hparts rest
        have hitems := readItems_lines (item :: items) h (List.cons_ne_nil _ _) level fuel rest
          (by rw [prettyChars, htext] at hfuel; simp only [List.length_cons] at hfuel; omega)
        obtain ⟨tail, hskip⟩ := skipSpace_lines level ']' rest hhead hspace
          (prettyItems level items)
        have hvalue := readValue_bracket
          (s := lines level ']' rest (prettyItems level (item :: items))) hskip hbracket
        rw [prettyChars, htext, hvalue, hitems]
        rfl
    | object members =>
      cases members with
      | nil => rfl
      | cons member members =>
        obtain ⟨name, value⟩ := member
        have hhead : quote name.toList ++ ':' :: ' ' :: value.prettyChars (level + 1) =
            '"' :: (name.toList.flatMap escapeChar ++
              '"' :: ':' :: ' ' :: value.prettyChars (level + 1)) := by simp [quote]
        have hparts : prettyMembers level ((name, value) :: members) ≠ [] := List.cons_ne_nil _ _
        have htext := block_append_eq '\x7b' '\x7d' level hparts rest
        have hmembers := readMembers_lines ((name, value) :: members) h.2 (List.cons_ne_nil _ _)
          level fuel rest
          (by rw [prettyChars, htext] at hfuel; simp only [List.length_cons] at hfuel; omega)
        obtain ⟨tail, hskip⟩ := skipSpace_lines level '\x7d' rest hhead (by decide)
          (prettyMembers level members)
        rw [prettyChars, htext,
          readValue_brace
            (s := lines level '\x7d' rest (prettyMembers level ((name, value) :: members))) hskip
            (by decide), hmembers]
        rfl

theorem readItems_lines (items : List Json) (h : OrderedItems items) (hne : items ≠ [])
    (level fuel : Nat) (rest : List Char)
    (hfuel : 2 * (lines level ']' rest (prettyItems level items)).length + 3 ≤ fuel) :
    readItems fuel (lines level ']' rest (prettyItems level items)) =
      (printedItems items, some rest) := by
  cases fuel with
  | zero => omega
  | succ fuel =>
    cases items with
    | nil => contradiction
    | cons item items =>
      have hitem := readValue_prettyChars item h.1 (level + 1) fuel
      cases items with
      | nil =>
        have hlines : lines level ']' rest (prettyItems level [item]) =
            newline (level + 1) ++
              (item.prettyChars (level + 1) ++ (newline level ++ ']' :: rest)) :=
          List.append_assoc _ _ _
        rw [hlines] at hfuel ⊢
        simp only [List.length_append, List.length_cons] at hfuel
        rw [readItems, readValue_congr (skipSpace_newline _ _), hitem _ (delimits_newline _ _)
          (by simp only [List.length_append, List.length_cons]; omega)]
        dsimp only
        rw [skipSpace_newline, skipSpace_cons (by decide)]
        rfl
      | cons next items =>
        have hitems := readItems_lines (next :: items) h.2 (List.cons_ne_nil _ _) level fuel rest
        have hlines : lines level ']' rest (prettyItems level (item :: next :: items)) =
            newline (level + 1) ++ (item.prettyChars (level + 1) ++
              ',' :: lines level ']' rest (prettyItems level (next :: items))) :=
          List.append_assoc _ _ _
        rw [hlines] at hfuel ⊢
        simp only [List.length_append, List.length_cons] at hfuel
        rw [readItems, readValue_congr (skipSpace_newline _ _),
          hitem _ (delimits_cons (by decide) _)
            (by simp only [List.length_append, List.length_cons]; omega)]
        dsimp only
        rw [skipSpace_cons (by decide)]
        change (printed item :: (readItems fuel _).1, (readItems fuel _).2) = _
        rw [hitems (by omega)]
        rfl

theorem readMembers_lines (members : List (String × Json)) (h : OrderedMembers members)
    (hne : members ≠ []) (level fuel : Nat) (rest : List Char)
    (hfuel : 2 * (lines level '\x7d' rest (prettyMembers level members)).length + 3 ≤ fuel) :
    readMembers fuel (lines level '\x7d' rest (prettyMembers level members)) =
      (printedMembers members, some rest) := by
  cases fuel with
  | zero => omega
  | succ fuel =>
    cases members with
    | nil => contradiction
    | cons member members =>
      obtain ⟨name, value⟩ := member
      have hvalue := readValue_prettyChars value h.1 (level + 1) fuel
      cases members with
      | nil =>
        have hlines : lines level '\x7d' rest (prettyMembers level [(name, value)]) =
            newline (level + 1) ++ (quote name.toList ++ (':' :: ' ' ::
              (value.prettyChars (level + 1) ++ (newline level ++ '\x7d' :: rest)))) := by
          simp [lines, prettyMembers]
        rw [hlines] at hfuel ⊢
        simp only [List.length_append, List.length_cons] at hfuel
        rw [readMembers_last (level + 1) (by omega)
          (hvalue _ (delimits_newline _ _)
            (by simp only [List.length_append, List.length_cons]; omega))
          ((skipSpace_newline _ _).trans (skipSpace_cons (by decide) _)), String.ofList_toList]
        rfl
      | cons next members =>
        have hmembers :=
          readMembers_lines (next :: members) h.2 (List.cons_ne_nil _ _) level fuel rest
        have hlines :
            lines level '\x7d' rest (prettyMembers level ((name, value) :: next :: members)) =
            newline (level + 1) ++ (quote name.toList ++ (':' :: ' ' ::
              (value.prettyChars (level + 1) ++
                ',' :: lines level '\x7d' rest (prettyMembers level (next :: members))))) := by
          simp [prettyMembers, lines_cons_cons]
        rw [hlines] at hfuel ⊢
        simp only [List.length_append, List.length_cons] at hfuel
        rw [readMembers_next (level + 1) (by omega)
          (hvalue _ (delimits_cons (by decide) _)
            (by simp only [List.length_append, List.length_cons]; omega))
          (skipSpace_cons (by decide) _), hmembers (by omega), String.ofList_toList]
        rfl

end

/-! ### Values of outlines -/

/-- The members of the outline of an object have its names. -/
theorem names_of_members?_eq_some {members pairs : List (String × Json)} {bound : Nat}
    (h : members? bound (printedMembers members) = some pairs) :
    pairs.map (·.1) = members.map (·.1) := by
  induction members generalizing pairs with
  | nil =>
    obtain rfl := Option.some.inj h
    rfl
  | cons member members ih =>
    obtain ⟨name, value⟩ := member
    obtain ⟨v, -, h⟩ := Option.bind_eq_some_iff.mp h
    obtain ⟨rest, hrest, h⟩ := Option.bind_eq_some_iff.mp h
    obtain rfl := Option.some.inj h
    rw [List.map_cons, List.map_cons, ih hrest]

/-- The members of the outline of an object in order are collected as they stand. -/
theorem ofPairs_of_members?_eq_some {members pairs : List (String × Json)} {bound : Nat}
    (hordered : Entries.Ordered members)
    (h : members? bound (printedMembers members) = some pairs) :
    ofPairs pairs = .object pairs := by
  have hnames := List.pairwise_map.mpr hordered
  rw [← names_of_members?_eq_some h] at hnames
  rw [ofPairs, Entries.ofPairs_eq_self (List.pairwise_map.mp hnames)]

/-- Collecting the members of the outline of an object in order gives that object if they are its
members. -/
theorem members?_ofPairs_iff {members : List (String × Json)} (h : Entries.Ordered members)
    (bound : Nat) :
    (members? bound (printedMembers members)).map ofPairs = some (.object members) ↔
      members? bound (printedMembers members) = some members := by
  rw [Option.map_eq_some_iff]
  constructor
  · rintro ⟨pairs, hpairs, hobject⟩
    rw [ofPairs_of_members?_eq_some h hpairs] at hobject
    rw [hpairs, Json.object.inj hobject]
  · intro hmembers
    exact ⟨members, hmembers, by rw [ofPairs, Entries.ofPairs_eq_self h]⟩

theorem bind_bind_eq_some_cons_iff {α : Type} {a : α} {as : List α} {first : Option α}
    {rest : Option (List α)} :
    (do let x ← first; let xs ← rest; some (x :: xs)) = some (a :: as) ↔
      first = some a ∧ rest = some as := by
  cases first <;> cases rest <;> simp

mutual

/-- The outline of the text of a value has that value if all its numbers are read back and it does
not reach the bound. -/
theorem value?_printed_eq_some_iff (v : Json) (h : v.Ordered) (bound : Nat) (hbound : 1 ≤ bound) :
    (printed v).value? bound = some v ↔ v.depth < bound ∧ v.Legible := by
  cases v with
  | null => exact ⟨fun _ ↦ ⟨hbound, trivial⟩, fun _ ↦ rfl⟩
  | bool b => exact ⟨fun _ ↦ ⟨hbound, trivial⟩, fun _ ↦ rfl⟩
  | text s => exact ⟨fun _ ↦ ⟨hbound, trivial⟩, fun _ ↦ rfl⟩
  | number n =>
    rw [printed, Legible]
    split
    next hfinite =>
      rw [value?, Option.map_eq_some_iff, Number.readsBack_iff hfinite]
      constructor
      · rintro ⟨m, hm, heq⟩
        exact ⟨hbound, Json.number.inj heq ▸ hm⟩
      · exact fun ⟨_, hn⟩ ↦ ⟨n, hn, rfl⟩
    next hfinite =>
      have hnot := Number.not_readsBack (Bool.eq_false_iff.mpr hfinite)
      exact ⟨fun hnull ↦ absurd (Option.some.inj hnull) nofun, fun ⟨_, hn⟩ ↦ absurd hn hnot⟩
  | array items =>
    rw [printed, value?, depth, Legible]
    split
    next hroom =>
      have hroom : 1 < bound := by simpa using hroom
      rw [Option.map_eq_some_iff]
      have hitems := values?_printedItems_eq_some_iff items h (bound - 1) (by omega)
      constructor
      · rintro ⟨found, hfound, heq⟩
        obtain ⟨hdepth, hlegible⟩ := hitems.mp (Json.array.inj heq ▸ hfound)
        exact ⟨by omega, hlegible⟩
      · exact fun ⟨hdepth, hlegible⟩ ↦ ⟨items, hitems.mpr ⟨by omega, hlegible⟩, rfl⟩
    next hfull =>
      have hfull : ¬ 1 < bound := by simpa using hfull
      exact ⟨nofun, fun ⟨hdepth, _⟩ ↦ absurd hdepth (by omega)⟩
  | object members =>
    rw [printed, value?, depth, Legible]
    split
    next hroom =>
      have hroom : 1 < bound := by simpa using hroom
      rw [members?_ofPairs_iff h.1,
        members?_printedMembers_eq_some_iff members h.2 (bound - 1) (by omega)]
      exact and_congr_left' (by omega)
    next hfull =>
      have hfull : ¬ 1 < bound := by simpa using hfull
      exact ⟨nofun, fun ⟨hdepth, _⟩ ↦ absurd hdepth (by omega)⟩

theorem values?_printedItems_eq_some_iff (items : List Json) (h : OrderedItems items)
    (bound : Nat) (hbound : 1 ≤ bound) :
    values? bound (printedItems items) = some items ↔
      itemsDepth items < bound ∧ LegibleItems items := by
  cases items with
  | nil => exact ⟨fun _ ↦ ⟨hbound, trivial⟩, fun _ ↦ rfl⟩
  | cons item items =>
    rw [printedItems, values?, bind_bind_eq_some_cons_iff,
      value?_printed_eq_some_iff item h.1 bound hbound,
      values?_printedItems_eq_some_iff items h.2 bound hbound, itemsDepth, Nat.max_lt, LegibleItems]
    exact and_and_and_comm

theorem members?_printedMembers_eq_some_iff (members : List (String × Json))
    (h : OrderedMembers members) (bound : Nat) (hbound : 1 ≤ bound) :
    members? bound (printedMembers members) = some members ↔
      membersDepth members < bound ∧ LegibleMembers members := by
  cases members with
  | nil => exact ⟨fun _ ↦ ⟨hbound, trivial⟩, fun _ ↦ rfl⟩
  | cons member members =>
    obtain ⟨name, value⟩ := member
    have hcons : members? bound (printedMembers ((name, value) :: members)) =
        some ((name, value) :: members) ↔
          (printed value).value? bound = some value ∧
            members? bound (printedMembers members) = some members := by
      rw [printedMembers, members?]
      cases (printed value).value? bound <;> cases members? bound (printedMembers members) <;>
        simp [name?]
    rw [hcons, value?_printed_eq_some_iff value h.1 bound hbound,
      members?_printedMembers_eq_some_iff members h.2 bound hbound, membersDepth, Nat.max_lt,
      LegibleMembers]
    exact and_and_and_comm

end

mutual

/-- A value that is taken from an outline has its names in order and does not reach the bound. -/
theorem ordered_of_value?_eq_some (outline : Outline) (bound : Nat) (hbound : 1 ≤ bound) {v : Json}
    (h : outline.value? bound = some v) : v.Ordered ∧ v.depth < bound := by
  cases outline with
  | null =>
    obtain rfl := Option.some.inj h
    exact ⟨trivial, hbound⟩
  | bool b =>
    obtain rfl := Option.some.inj h
    exact ⟨trivial, hbound⟩
  | number n =>
    obtain ⟨_, -, rfl⟩ := Option.map_eq_some_iff.mp h
    exact ⟨trivial, hbound⟩
  | text s =>
    obtain ⟨_, -, rfl⟩ := Option.map_eq_some_iff.mp h
    exact ⟨trivial, hbound⟩
  | broken => contradiction
  | array items closed =>
    rw [value?] at h
    split at h
    next hroom =>
      have hroom : 1 < bound := (by simpa using hroom : _ ∧ 1 < bound).2
      obtain ⟨found, hfound, rfl⟩ := Option.map_eq_some_iff.mp h
      obtain ⟨hordered, hdepth⟩ := ordered_of_values?_eq_some items (bound - 1) (by omega) hfound
      exact ⟨hordered, by rw [depth]; omega⟩
    next => contradiction
  | object members closed =>
    rw [value?] at h
    split at h
    next hroom =>
      have hroom : 1 < bound := (by simpa using hroom : _ ∧ 1 < bound).2
      obtain ⟨pairs, hpairs, rfl⟩ := Option.map_eq_some_iff.mp h
      have hmembers := ordered_of_members?_eq_some members (bound - 1) (by omega) hpairs
      have hcollected : ∀ member ∈ Entries.ofPairs pairs,
          member.2.Ordered ∧ member.2.depth < bound - 1 :=
        fun member hmember ↦ hmembers member (Entries.mem_of_mem_ofPairs hmember)
      have hdepth : membersDepth (Entries.ofPairs pairs) < bound - 1 :=
        (membersDepth_lt_iff (by omega)).mpr fun member hmember ↦ (hcollected member hmember).2
      refine ⟨⟨Entries.ordered_ofPairs pairs, orderedMembers_iff.mpr fun member hmember ↦
        (hcollected member hmember).1⟩, ?_⟩
      rw [ofPairs, depth]
      omega
    next => contradiction

theorem ordered_of_values?_eq_some (outlines : List Outline) (bound : Nat) (hbound : 1 ≤ bound)
    {items : List Json} (h : values? bound outlines = some items) :
    OrderedItems items ∧ itemsDepth items < bound := by
  cases outlines with
  | nil =>
    obtain rfl := Option.some.inj h
    exact ⟨trivial, hbound⟩
  | cons outline outlines =>
    obtain ⟨item, hitem, h⟩ := Option.bind_eq_some_iff.mp h
    obtain ⟨rest, hrest, h⟩ := Option.bind_eq_some_iff.mp h
    obtain rfl := Option.some.inj h
    obtain ⟨hfirst, hdepth⟩ := ordered_of_value?_eq_some outline bound hbound hitem
    obtain ⟨hothers, hdepths⟩ := ordered_of_values?_eq_some outlines bound hbound hrest
    exact ⟨⟨hfirst, hothers⟩, Nat.max_lt.mpr ⟨hdepth, hdepths⟩⟩

theorem ordered_of_members?_eq_some (outlines : List (Outline × Outline)) (bound : Nat)
    (hbound : 1 ≤ bound) {pairs : List (String × Json)}
    (h : members? bound outlines = some pairs) :
    ∀ member ∈ pairs, member.2.Ordered ∧ member.2.depth < bound := by
  cases outlines with
  | nil =>
    obtain rfl := Option.some.inj h
    exact nofun
  | cons outline outlines =>
    obtain ⟨key, outline⟩ := outline
    obtain ⟨name, -, h⟩ := Option.bind_eq_some_iff.mp h
    obtain ⟨value, hvalue, h⟩ := Option.bind_eq_some_iff.mp h
    obtain ⟨rest, hrest, h⟩ := Option.bind_eq_some_iff.mp h
    obtain rfl := Option.some.inj h
    exact List.forall_mem_cons.mpr ⟨ordered_of_value?_eq_some outline bound hbound hvalue,
      ordered_of_members?_eq_some outlines bound hbound hrest⟩

end

/-! ### Texts -/

/-- An indented text is read as its outline says. -/
theorem read?_pretty {v : Json} (h : v.Ordered) :
    read? (v.pretty ++ "\n") = (printed v).value? depthLimit := by
  have hlist : (v.pretty ++ "\n").toList = v.prettyChars 0 ++ ['\n'] := by
    simp [pretty]
  have hread := readValue_prettyChars v h 0 _ ['\n'] (delimits_cons (by decide) []) (Nat.le_refl _)
  rw [read?, hlist, Outline.read, hread]
  rfl

/-- A value is read back from its indented text if its numbers are read back from theirs and it does
not nest too deep, and only then. -/
theorem read?_pretty_eq_some_iff {v : Json} (h : v.Ordered) :
    read? (v.pretty ++ "\n") = some v ↔ v.depth < depthLimit ∧ v.Legible := by
  rw [read?_pretty h]
  exact value?_printed_eq_some_iff v h depthLimit (by decide)

/-- Whatever becomes of its numbers, a printed object has its names, each with what its value is
read as. -/
theorem get?_of_value?_printed_object {members found : Entries Json} (h : Entries.Ordered members)
    {bound : Nat} (hfound : (printed (.object members)).value? bound = some (.object found))
    (name : String) :
    Entries.get? found name =
      (Entries.get? members name).bind fun v ↦ (printed v).value? (bound - 1) := by
  rw [printed, value?] at hfound
  split at hfound
  next hroom =>
    obtain ⟨pairs, hpairs, hobject⟩ := Option.map_eq_some_iff.mp hfound
    rw [ofPairs_of_members?_eq_some h hpairs] at hobject
    obtain rfl := Json.object.inj hobject
    clear hfound hobject h
    induction members generalizing pairs with
    | nil =>
      obtain rfl := Option.some.inj hpairs
      rfl
    | cons member members ih =>
      obtain ⟨n, v⟩ := member
      obtain ⟨v', hv, hpairs⟩ := Option.bind_eq_some_iff.mp hpairs
      obtain ⟨rest, hrest, hpairs⟩ := Option.bind_eq_some_iff.mp hpairs
      obtain rfl := Option.some.inj hpairs
      rw [Entries.get?_cons, Entries.get?_cons]
      split
      · exact hv.symm
      · exact ih rest hrest
  next => contradiction

/-- A value that is read has its names in order and nests no deeper than the reader goes. -/
theorem ordered_of_read?_eq_some {text : String} {v : Json} (h : read? text = some v) :
    v.Ordered ∧ v.depth < depthLimit := by
  unfold read? at h
  split at h
  · split at h
    · exact ordered_of_value?_eq_some _ depthLimit (by decide) h
    · contradiction
  · contradiction

end Responsive.Json

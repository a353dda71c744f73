import Responsive.Text.Occurrence

/-!
# Slices between byte offsets

A position in a text is the number of bytes before it in UTF-8. A slice exists only between two
positions that are in order, within the text and between characters; every other slice is a fault
of the one who asked for it.

* `cutAtByte?_append`: the length of a beginning of a text is a position in it.
* `eq_append_of_cutAtByte?_eq_some`: the two sides of a cut give the text back.
* `slice_append`: the slice from the end of a beginning to the end of a longer one.
-/

set_option autoImplicit false
set_option relaxedAutoImplicit false

namespace Responsive.Text

/-- The number of bytes of a text. -/
def byteLength : List Char → Nat
  | [] => 0
  | c :: s => c.utf8Size + byteLength s

/-- The texts before and after a byte offset; `none` beyond the end and inside a character. -/
def cutAtByte? : Nat → List Char → Option (List Char × List Char)
  | 0, s => some ([], s)
  | _ + 1, [] => none
  | n + 1, c :: s =>
    if c.utf8Size ≤ n + 1 then
      (cutAtByte? (n + 1 - c.utf8Size) s).map fun cut ↦ (c :: cut.1, cut.2)
    else none

/-- Two offsets that bound no slice. -/
structure OutOfRange where
  start : Nat
  stop : Nat
deriving DecidableEq, Repr

/-- The text between two byte offsets. -/
def slice (s : List Char) (start stop : Nat) : Except OutOfRange (List Char) :=
  match cutAtByte? start s with
  | some (_, rest) =>
    if start ≤ stop then
      match cutAtByte? (stop - start) rest with
      | some (part, _) => .ok part
      | none => .error ⟨start, stop⟩
    else .error ⟨start, stop⟩
  | none => .error ⟨start, stop⟩

/-- The text from a byte offset on. -/
def sliceFrom (s : List Char) (start : Nat) : Except OutOfRange (List Char) :=
  slice s start (byteLength s)

@[simp] theorem byteLength_nil : byteLength [] = 0 := rfl

@[simp] theorem byteLength_cons (c : Char) (s : List Char) :
    byteLength (c :: s) = c.utf8Size + byteLength s := rfl

@[simp] theorem byteLength_append (s t : List Char) :
    byteLength (s ++ t) = byteLength s + byteLength t := by
  induction s with
  | nil => exact (Nat.zero_add _).symm
  | cons c s ih => rw [List.cons_append, byteLength_cons, byteLength_cons, ih, Nat.add_assoc]

theorem cutAtByte?_append (s t : List Char) : cutAtByte? (byteLength s) (s ++ t) = some (s, t) := by
  induction s with
  | nil => cases t <;> rfl
  | cons c s ih =>
    have hpos : 0 < c.utf8Size := c.utf8Size_pos
    obtain ⟨n, hn⟩ : ∃ n, byteLength (c :: s) = n + 1 := ⟨c.utf8Size + byteLength s - 1, by
      rw [byteLength_cons]
      omega⟩
    have hrest : n + 1 - c.utf8Size = byteLength s := by
      rw [byteLength_cons] at hn
      omega
    have hle : c.utf8Size ≤ n + 1 := by
      rw [byteLength_cons] at hn
      omega
    rw [hn, List.cons_append, cutAtByte?, if_pos hle, hrest, ih]
    rfl

theorem eq_append_of_cutAtByte?_eq_some {n : Nat} {s before after : List Char}
    (h : cutAtByte? n s = some (before, after)) : s = before ++ after := by
  fun_induction cutAtByte? n s generalizing before with
  | case1 s =>
    obtain ⟨rfl, rfl⟩ := by simpa using h
    rfl
  | case2 n => contradiction
  | case3 n c s hle ih =>
    obtain ⟨cut, hcut, heq⟩ := Option.map_eq_some_iff.mp h
    obtain ⟨rfl, rfl⟩ := by simpa using heq
    rw [ih hcut, List.cons_append]
  | case4 n c s hle => contradiction

theorem slice_append (s t u : List Char) :
    slice (s ++ t ++ u) (byteLength s) (byteLength (s ++ t)) = .ok t := by
  have hlength : byteLength (s ++ t) - byteLength s = byteLength t := by
    rw [byteLength_append]
    omega
  have hle : byteLength s ≤ byteLength (s ++ t) := by
    rw [byteLength_append]
    omega
  rw [slice, List.append_assoc, cutAtByte?_append]
  simp only [hlength, if_pos hle, cutAtByte?_append]

theorem sliceFrom_append (s t : List Char) : sliceFrom (s ++ t) (byteLength s) = .ok t := by
  simpa [sliceFrom] using slice_append s t []

end Responsive.Text

/-!
# Reading UTF-8 with faults

Bytes that should be UTF-8 but need not be. Every longest run of bytes that begins a character and
cannot be continued is read as one replacement character, and so is every byte that cannot begin
one.

* `decodeLossy_ascii`: plain ASCII is read as it stands.
-/

set_option autoImplicit false
set_option relaxedAutoImplicit false

namespace Responsive.Text

/-- What stands for bytes that are no character. -/
def replacement : Char := Char.ofNat 0xFFFD

/-- Whether a byte continues a character. -/
def isContinuation (b : UInt8) : Bool :=
  0x80 ≤ b && b ≤ 0xBF

/-- How many bytes follow a first byte, and between which bounds the first of those lies. -/
def following? (b : UInt8) : Option (Nat × UInt8 × UInt8) :=
  if 0xC2 ≤ b && b ≤ 0xDF then some (1, 0x80, 0xBF)
  else if b == 0xE0 then some (2, 0xA0, 0xBF)
  else if b == 0xED then some (2, 0x80, 0x9F)
  else if 0xE1 ≤ b && b ≤ 0xEF then some (2, 0x80, 0xBF)
  else if b == 0xF0 then some (3, 0x90, 0xBF)
  else if 0xF1 ≤ b && b ≤ 0xF3 then some (3, 0x80, 0xBF)
  else if b == 0xF4 then some (3, 0x80, 0x8F)
  else none

/-- The bits that a first byte contributes, for so many bytes behind it. -/
def leadBits (count : Nat) (b : UInt8) : Nat :=
  b.toNat % Nat.pow 2 (6 - count)

/-- The bytes behind a first byte that belong to its character, at most `count`. -/
def continuation (count : Nat) (low high : UInt8) : List UInt8 → List UInt8
  | [] => []
  | b :: rest =>
    if low ≤ b && b ≤ high then b :: (rest.take (count - 1)).takeWhile isContinuation else []

/-- Reads the character that begins with a byte; also returns how many bytes behind it were used. -/
def readChar (b : UInt8) (rest : List UInt8) : Char × Nat :=
  if b < 0x80 then (Char.ofNat b.toNat, 0)
  else
    match following? b with
    | none => (replacement, 0)
    | some (count, low, high) =>
      let tail := continuation count low high rest
      if tail.length = count then
        (Char.ofNat (tail.foldl (fun n b ↦ 64 * n + b.toNat % 64) (leadBits count b)), count)
      else (replacement, tail.length)

/-- Reads bytes as text. -/
def decodeLossy : List UInt8 → List Char
  | [] => []
  | b :: rest =>
    let (c, used) := readChar b rest
    c :: decodeLossy (rest.drop used)
termination_by bytes => bytes.length
decreasing_by simp only [List.length_drop, List.length_cons]; omega

/-- A text without one byte order mark at its front. -/
def withoutMark (s : List Char) : List Char :=
  match s with
  | c :: rest => if c.toNat = 0xFEFF then rest else s
  | [] => []

/-- Plain ASCII is read as it stands. -/
theorem decodeLossy_ascii {bytes : List UInt8} (h : ∀ b ∈ bytes, b < 0x80) :
    decodeLossy bytes = bytes.map fun b ↦ Char.ofNat b.toNat := by
  induction bytes with
  | nil => simp [decodeLossy]
  | cons b rest ih =>
    have hb : b < 0x80 := h b (List.mem_cons_self ..)
    have hrest : ∀ b ∈ rest, b < 0x80 := fun b hb ↦ h b (List.mem_cons_of_mem _ hb)
    rw [decodeLossy, readChar, if_pos hb]
    simp [ih hrest]

end Responsive.Text

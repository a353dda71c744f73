import Responsive.Binary64.Text
import Responsive.Json.Outline
import Responsive.Text.Identifier

/-!
# Relaxed JSON

JSON as people write it: with comments, trailing commas, names without quotes, single quotes, and
numbers with signs, in hexadecimal or without digits on one side of the point.

* `isGap_of_isSpace`: the white space of JSON is white space here.
-/

set_option autoImplicit false
set_option relaxedAutoImplicit false

namespace Responsive.Json.Relaxed

open Text

/-! ### Gaps -/

/-- The end of a line. -/
def isLineEnd (c : Char) : Bool :=
  c == '\n' || c == '\r' || c.toNat == 0x2028 || c.toNat == 0x2029

/-- White space: any space of Unicode and the byte order mark. -/
def isGap (c : Char) : Bool :=
  isLineEnd c || c == '\t' || c == '\x0b' || c == '\x0c' || c == ' ' ||
    [0xA0, 0xFEFF, 0x1680, 0x202F, 0x205F, 0x3000].contains c.toNat ||
    (0x2000 ≤ c.toNat && c.toNat ≤ 0x200A)

/-- The white space of JSON is white space here. -/
theorem isGap_of_isSpace {c : Char} (h : isSpace c = true) : isGap c = true := by
  simp only [isSpace, Bool.or_eq_true, beq_iff_eq] at h
  rcases h with ((rfl | rfl) | rfl) | rfl <;> rfl

/-- The text behind the end of a comment. -/
def pastComment? : List Char → Option (List Char)
  | [] => none
  | '*' :: '/' :: s => some s
  | _ :: s => pastComment? s

/-- The text behind white space and comments; the fuel bounds the number of both. -/
def gapFrom? : Nat → List Char → Option (List Char)
  | 0, _ => none
  | fuel + 1, s =>
    match s.dropWhile isGap with
    | '/' :: '/' :: s => gapFrom? fuel (s.dropWhile (!isLineEnd ·))
    | '/' :: '*' :: s => (pastComment? s).bind (gapFrom? fuel)
    | s => some s

/-- The text behind white space and comments. -/
def gap? (s : List Char) : Option (List Char) :=
  gapFrom? (s.length + 1) s

/-! ### Texts and names -/

/-- The character that one behind a backslash stands for. -/
def escape (c : Char) : Char :=
  match c with
  | 'b' => '\x08'
  | 'f' => '\x0c'
  | 'n' => '\n'
  | 'r' => '\r'
  | 't' => '\t'
  | 'v' => '\x0b'
  | '0' => '\x00'
  | c => c

/-- The text with the code points of the parts of a string; `none` if half of a surrogate pair is
among them. -/
def codeText? : List Nat → Option (List Char)
  | [] => some []
  | n :: m :: rest =>
    if 0xD800 ≤ n ∧ n < 0xDC00 ∧ 0xDC00 ≤ m ∧ m < 0xE000 then
      (codeText? rest).map (Char.ofNat (0x10000 + (n - 0xD800) * 0x400 + (m - 0xDC00)) :: ·)
    else if n.isValidChar then (codeText? (m :: rest)).map (Char.ofNat n :: ·)
    else none
  | [n] => if n.isValidChar then some [Char.ofNat n] else none

/-- Reads the parts of a string behind its opening quote, up to and including the closing one. -/
def parts? (quote : Char) : List Char → Option (List Nat × List Char)
  | [] => none
  | '\\' :: 'u' :: a :: b :: c :: d :: s => do
    let code ← hexUnit? a b c d
    (parts? quote s).map fun (codes, rest) ↦ (code :: codes, rest)
  | '\\' :: 'x' :: a :: b :: s => do
    let code ← hexUnit? '0' '0' a b
    (parts? quote s).map fun (codes, rest) ↦ (code :: codes, rest)
  | '\\' :: '\r' :: '\n' :: s => parts? quote s
  | '\\' :: c :: s =>
    if isLineEnd c then parts? quote s
    else if c == 'x' || c == 'u' || (c.isDigit && c != '0') then none
    else (parts? quote s).map fun (codes, rest) ↦ ((escape c).toNat :: codes, rest)
  | c :: s =>
    if c == quote then some ([], s)
    else if c == '\\' || c == '\n' || c == '\r' then none
    else (parts? quote s).map fun (codes, rest) ↦ (c.toNat :: codes, rest)

/-- Reads a string behind its opening quote. -/
def string? (quote : Char) (s : List Char) : Option (String × List Char) := do
  let (codes, rest) ← parts? quote s
  return (.ofList (← codeText? codes), rest)

/-- Reads a name without quotes. -/
def bareName? (s : List Char) : Option (String × List Char) :=
  let isPart (c : Char) := isNameContinue c || c == '$' || c.toNat == 0x200C || c.toNat == 0x200D
  match s with
  | c :: _ =>
    if isNameStart c || c == '$' || c == '_' then
      some (.ofList (s.takeWhile isPart), s.dropWhile isPart)
    else none
  | [] => none

/-- Reads the name of a member. -/
def name? (s : List Char) : Option (String × List Char) :=
  match s with
  | '"' :: s => string? '"' s
  | '\'' :: s => string? '\'' s
  | s => bareName? s

/-! ### Numbers -/

/-- A character of a number. -/
def isNumberChar (c : Char) : Bool :=
  c.isAlphanum || c == '.' || c == '+' || c == '-'

/-- An integer, as a float if it does not fit 64 signed bits. -/
def boxed (n : Int) (x : Binary64) : Json :=
  if -(Nat.pow 2 63 : Int) ≤ n ∧ n < (Nat.pow 2 63 : Int) then .int n else .number (.float x)

/-- The hexadecimal number of digits. -/
def hexadecimal? (negative : Bool) (digits : List Char) : Option Json := do
  if digits.isEmpty then none
  let n ← digits.foldl (fun n c ↦ do return 16 * (← n) + (← hexValue? c)) (some 0)
  return boxed (if negative then -(n : Int) else n) (Binary64.ofDecimal negative n 0)

/-- The decimal number of a text without a sign, which has no needless zero at its front. -/
def decimal? (negative : Bool) (s : List Char) : Option Json := do
  let whole := s.takeWhile Char.isDigit
  if whole.head? == some '0' && 1 < whole.length then none
  let x ← Binary64.ofUnsigned? negative s
  if !x.isFinite then none
  if whole.length = s.length then
    let n := digitsValue s
    return boxed (if negative then -(n : Int) else n) x
  else return .number (.float x)

/-- Reads a number. -/
def number? (s : List Char) : Option (Json × List Char) :=
  let (negative, digits) := Binary64.signed (s.takeWhile isNumberChar)
  let value := match digits with
    | '0' :: 'x' :: digits | '0' :: 'X' :: digits => hexadecimal? negative digits
    | ['I', 'n', 'f', 'i', 'n', 'i', 't', 'y'] => some (.number (.float (.infinite negative)))
    | ['N', 'a', 'N'] => some (.number (.float .nan))
    | digits => decimal? negative digits
  value.map (·, s.dropWhile isNumberChar)

/-! ### Values -/

mutual

/-- Reads a value. -/
def value? : Nat → List Char → Option (Json × List Char)
  | 0, _ => none
  | fuel + 1, s =>
    match s with
    | '\x7b' :: s => do members? fuel (← gap? s)
    | '[' :: s => do items? fuel (← gap? s)
    | '"' :: s => (string? '"' s).map fun (chars, rest) ↦ (.text chars, rest)
    | '\'' :: s => (string? '\'' s).map fun (chars, rest) ↦ (.text chars, rest)
    | s =>
      match bareName? s with
      | some ("null", rest) => some (.null, rest)
      | some ("true", rest) => some (.bool true, rest)
      | some ("false", rest) => some (.bool false, rest)
      | _ => number? s

/-- Reads the items of an array up to its closing bracket. -/
def items? : Nat → List Char → Option (Json × List Char)
  | 0, _ => none
  | fuel + 1, s =>
    match s with
    | ']' :: rest => some (.array [], rest)
    | s => do
      let (item, rest) ← value? fuel s
      match ← gap? rest with
      | ']' :: rest => some (.array [item], rest)
      | ',' :: rest =>
        match ← items? fuel (← gap? rest) with
        | (.array items, rest) => some (.array (item :: items), rest)
        | _ => none
      | _ => none

/-- Reads the members of an object up to its closing brace. Of two with one name the later one
counts. -/
def members? : Nat → List Char → Option (Json × List Char)
  | 0, _ => none
  | fuel + 1, s =>
    match s with
    | '\x7d' :: rest => some (.object [], rest)
    | s => do
      let (name, rest) ← name? s
      match ← gap? rest with
      | ':' :: rest =>
        let (value, rest) ← value? fuel (← gap? rest)
        match ← gap? rest with
        | '\x7d' :: rest => some (.ofPairs [(name, value)], rest)
        | ',' :: rest =>
          match ← members? fuel (← gap? rest) with
          | (.object members, rest) =>
            some (.object (if (Entries.get? members name).isSome then members
              else Entries.insert name value members), rest)
          | _ => none
        | _ => none
      | _ => none

end

/-- Reads a text of one value. -/
def read? (s : String) : Option Json := do
  let (value, rest) ← value? (2 * s.length + 2) (← gap? s.toList)
  if (← gap? rest).isEmpty then some value else none

end Responsive.Json.Relaxed

import Responsive.Binary64.Text
import Responsive.Json.Basic
import Responsive.Json.Outline
import Responsive.Text.Identifier

/-!
# Words, numbers and texts of RON

RON writes values as a program does: records with named fields, texts with escapes or without any,
numbers in four bases with the names of their types behind them, and comments.

* `word?_none`: no word begins at the end of a text.
-/

set_option autoImplicit false
set_option relaxedAutoImplicit false

namespace Responsive.Ron

open Text

/-! ### Gaps -/

/-- White space. -/
def isSpace (c : Char) : Bool :=
  ('\t' ≤ c && c ≤ '\r') || c == ' ' || [0x85, 0x200E, 0x200F, 0x2028, 0x2029].contains c.toNat

/-- The text behind a comment whose marks may nest, given how many are open. -/
def pastComment? : Nat → List Char → Option (List Char)
  | 0, s => some s
  | _, [] => none
  | depth + 1, '/' :: '*' :: s => pastComment? (depth + 2) s
  | depth + 1, '*' :: '/' :: s => pastComment? depth s
  | depth + 1, _ :: s => pastComment? (depth + 1) s
termination_by _ s => s.length

/-- The text behind white space and comments; the fuel bounds the number of both. -/
def gapFrom? : Nat → List Char → Option (List Char)
  | 0, _ => none
  | fuel + 1, s =>
    match s.dropWhile isSpace with
    | '/' :: '/' :: s => gapFrom? fuel (s.dropWhile (· != '\n'))
    | '/' :: '*' :: s => (pastComment? 1 s).bind (gapFrom? fuel)
    | s => some s

/-- The text behind white space and comments. -/
def gap? (s : List Char) : Option (List Char) :=
  gapFrom? (s.length + 1) s

/-! ### Words -/

/-- A character of a word behind the mark for raw words. -/
def isRawChar (c : Char) : Bool :=
  isNameContinue c || c == '.' || c == '+' || c == '-'

/-- Reads a word. The mark for raw words is no part of it, and a text without escapes is no word. -/
def word? (s : List Char) : Option (String × List Char) :=
  match s with
  | 'r' :: '"' :: _ => none
  | 'r' :: '#' :: s =>
    match s.takeWhile isRawChar with
    | [] => none
    | word => some (.ofList word, s.dropWhile isRawChar)
  | c :: _ =>
    if isNameStart c || c == '_' then
      some (.ofList (s.takeWhile isNameContinue), s.dropWhile isNameContinue)
    else none
  | [] => none

/-- No word begins at the end of a text. -/
theorem word?_none : word? [] = none := rfl

/-! ### Numbers -/

/-- A character of an integer. -/
def isIntegerChar (c : Char) : Bool :=
  (Json.hexValue? c).isSome || c == '_'

/-- A character of a float. -/
def isFloatChar (c : Char) : Bool :=
  c.isDigit || c == '.' || c == 'e' || c == 'E' || c == '+' || c == '-' || c == '_'

/-- The integers of a type that is named behind a number; the lower bound is a member and the upper
one is not. Without a name it must fit 64 bits. -/
def bounds? (negative : Bool) (type : String) : Option (Int × Int) :=
  let signed (bits : Nat) : Option (Int × Int) := some (-Nat.pow 2 (bits - 1), Nat.pow 2 (bits - 1))
  let unsigned (bits : Nat) : Option (Int × Int) := some (0, Nat.pow 2 bits)
  match type with
  | "" => if negative then signed 64 else unsigned 64
  | "i8" => signed 8
  | "i16" => signed 16
  | "i32" => signed 32
  | "i64" => signed 64
  | "u8" => unsigned 8
  | "u16" => unsigned 16
  | "u32" => unsigned 32
  | "u64" => unsigned 64
  | _ => none

/-- The base of an integer, and the text behind its mark. -/
def base (s : List Char) : Nat × List Char :=
  match s with
  | '0' :: 'x' :: s => (16, s)
  | '0' :: 'b' :: s => (2, s)
  | '0' :: 'o' :: s => (8, s)
  | s => (10, s)

/-- The value of digits in a base, among which underscores may stand. -/
def digitsIn? (base : Nat) (s : List Char) : Option Nat :=
  if s.isEmpty || s.head? == some '_' then none
  else
    (s.filter (· != '_')).foldl
      (fun n c ↦ do return base * (← n) + (← (Json.hexValue? c).filter (· < base))) (some 0)

/-- Reads an integer behind its sign. -/
def integer? (negative : Bool) (s : List Char) : Option (Json × List Char) := do
  let (base, s) := base s
  let n ← digitsIn? base (s.takeWhile isIntegerChar)
  let rest := s.dropWhile isIntegerChar
  let (low, high) ← bounds? negative (.ofList (rest.takeWhile isNameContinue))
  let n : Int := if negative then -(n : Int) else n
  if low ≤ n ∧ n < high then some (.int n, rest.dropWhile isNameContinue) else none

/-- The digits of a float without underscores, which must follow digits. -/
def withoutUnderscores? (allowed : Bool) : List Char → Option (List Char)
  | [] => some []
  | '_' :: s => if allowed then withoutUnderscores? allowed s else none
  | c :: s =>
    (withoutUnderscores? (if c == '.' then false else allowed || c.isAlphanum) s).map (c :: ·)

/-- Reads a float behind its sign. -/
def float? (negative : Bool) (s : List Char) : Option (Json × List Char) := do
  let x ← Binary64.ofUnsigned? negative (← withoutUnderscores? false (s.takeWhile isFloatChar))
  let rest := s.dropWhile isFloatChar
  let type : String := .ofList (rest.takeWhile isNameContinue)
  if ["", "f32", "f64"].contains type then
    some (.number (.float x), rest.dropWhile isNameContinue)
  else none

/-- The float that a word stands for. -/
def namedFloat? (negative : Bool) (word : String) : Option Binary64 :=
  if word == "inf" then some (.infinite negative)
  else if word == "NaN" then some .nan
  else none

/-- Reads a number: a float if more characters of one follow than of an integer. -/
def number? (s : List Char) : Option (Json × List Char) :=
  let (negative, s) := Binary64.signed s
  match word? s with
  | some (word, rest) => (namedFloat? negative word).map fun x ↦ (.number (.float x), rest)
  | none =>
    if (s.takeWhile isIntegerChar).length < (s.takeWhile isFloatChar).length then float? negative s
    else integer? negative s

/-! ### Texts -/

/-- The character of a number that is written in hexadecimal digits. -/
def codeChar? (digits : List Char) : Option Char := do
  let n ← digits.foldl (fun n c ↦ do return 16 * (← n) + (← Json.hexValue? c)) (some 0)
  if n.isValidChar then some (Char.ofNat n) else none

/-- Reads the character behind a backslash. -/
def escape? (s : List Char) : Option (Char × List Char) :=
  match s with
  | 'n' :: s => some ('\n', s)
  | 'r' :: s => some ('\r', s)
  | 't' :: s => some ('\t', s)
  | '0' :: s => some ('\x00', s)
  | 'x' :: a :: b :: s => (codeChar? [a, b]).map (·, s)
  | 'u' :: '\x7b' :: s =>
    let digits := s.takeWhile (· != '\x7d')
    if digits.isEmpty || 6 < digits.length then none
    else (codeChar? digits).map (·, (s.dropWhile (· != '\x7d')).drop 1)
  | c :: s => if c == '"' || c == '\'' || c == '\\' then some (c, s) else none
  | [] => none

/-- Reads a text behind its opening quote, up to and including the closing one; the fuel bounds the
number of its characters. -/
def textFrom? : Nat → List Char → Option (List Char × List Char)
  | 0, _ => none
  | fuel + 1, s =>
    match s with
    | [] => none
    | '"' :: rest => some ([], rest)
    | '\\' :: s => do
      let (c, rest) ← escape? s
      let (chars, rest) ← textFrom? fuel rest
      some (c :: chars, rest)
    | c :: s => (textFrom? fuel s).map fun (chars, rest) ↦ (c :: chars, rest)

/-- Reads a text without escapes behind its quote, up to and including the given end. -/
def rawTextFrom? (closing : List Char) : List Char → Option (List Char × List Char)
  | [] => none
  | c :: s =>
    if closing.isPrefixOf (c :: s) then some ([], (c :: s).drop closing.length)
    else (rawTextFrom? closing s).map fun (chars, rest) ↦ (c :: chars, rest)

/-- Reads a text without escapes behind its mark; as many signs end it as there are before its
quote. -/
def rawText? (s : List Char) : Option (List Char × List Char) :=
  let signs := s.takeWhile (· == '#')
  match s.dropWhile (· == '#') with
  | '"' :: s => rawTextFrom? ('"' :: signs) s
  | _ => none

/-- Reads a single character behind its opening quote, up to and including the closing one. -/
def char? (s : List Char) : Option (Char × List Char) :=
  let found := match s with
    | '\\' :: s => escape? s
    | c :: s => some (c, s)
    | [] => none
  match found with
  | some (c, '\'' :: rest) => some (c, rest)
  | _ => none

/-- Reads a text or a character. -/
def text? (s : List Char) : Option (Json × List Char) :=
  let made (found : List Char × List Char) : Json × List Char := (.text (.ofList found.1), found.2)
  match s with
  | '"' :: s => (textFrom? (s.length + 1) s).map made
  | 'r' :: s => (rawText? s).map made
  | '\'' :: s => (char? s).map fun (c, rest) ↦ (.text (.singleton c), rest)
  | _ => none

end Responsive.Ron

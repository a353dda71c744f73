import Responsive.Json.Outline

/-!
# Strings of TOML

Four kinds of strings: in double quotes with escapes or in single quotes without, each on one line
or, in triple quotes, on several. A string of several lines keeps its line breaks as they are
written. It may begin with one, which does not count, and with escapes a backslash at the end of a
line takes the break and all blanks behind it away. Up to two quotes may stand right before the
closing three.

Every reader here starts behind the opening quotes and returns the characters and the rest.
-/

set_option autoImplicit false
set_option relaxedAutoImplicit false

namespace Responsive.Toml

/-- A space or a tab. -/
def isSpace (c : Char) : Bool :=
  c == ' ' || c == '\t'

/-- Whether a character may stand in a string or a comment. -/
def isTextChar (c : Char) : Bool :=
  c == '\t' || (0x20 ≤ c.toNat && c.toNat != 0x7F)

/-- The character that a one-letter escape stands for. -/
def escape? (c : Char) : Option Char :=
  match c with
  | '"' | '\\' => some c
  | 'b' => some '\x08'
  | 'e' => some '\x1b'
  | 'f' => some '\x0c'
  | 'n' => some '\n'
  | 'r' => some '\r'
  | 't' => some '\t'
  | _ => none

/-- The character of that code, which must not be a surrogate. -/
def charOf? (n : Nat) : Option Char :=
  if n.isValidChar then some (Char.ofNat n) else none

/-- The character of a two-digit escape. -/
def byteEscape? (a b : Char) : Option Char := do
  charOf? (16 * (← Json.hexValue? a) + (← Json.hexValue? b))

/-- The character of a four-digit escape. -/
def shortEscape? (a b c d : Char) : Option Char := do
  charOf? (← Json.hexUnit? a b c d)

/-- The character of an eight-digit escape. -/
def longEscape? (a b c d e f g h : Char) : Option Char := do
  charOf? ((← Json.hexUnit? a b c d) * 0x10000 + (← Json.hexUnit? e f g h))

/-- Puts a character, if there is one, before what is read next. -/
def before (c : Option Char) (next : Option (List Char × List Char)) :
    Option (List Char × List Char) := do
  let c ← c
  let (chars, rest) ← next
  some (c :: chars, rest)

/-- Reads a string with escapes on one line. -/
def basic? : List Char → Option (List Char × List Char)
  | [] => none
  | '"' :: s => some ([], s)
  | '\\' :: 'x' :: a :: b :: s => before (byteEscape? a b) (basic? s)
  | '\\' :: 'u' :: a :: b :: c :: d :: s => before (shortEscape? a b c d) (basic? s)
  | '\\' :: 'U' :: a :: b :: c :: d :: e :: f :: g :: h :: s =>
    before (longEscape? a b c d e f g h) (basic? s)
  | '\\' :: c :: s => before (escape? c) (basic? s)
  | c :: s => if isTextChar c then before (some c) (basic? s) else none

/-- Reads a string without escapes on one line. -/
def literal? : List Char → Option (List Char × List Char)
  | [] => none
  | '\'' :: s => some ([], s)
  | c :: s => if isTextChar c then before (some c) (literal? s) else none

/-- The quotes, at most two, that stand between three closing ones and the rest. -/
def extraQuotes (quote : Char) (s : List Char) : List Char × List Char :=
  let extra := (s.takeWhile (· == quote)).take 2
  (extra, s.drop extra.length)

/-- Whether nothing but blanks stands before the end of the line. -/
def endsLine (s : List Char) : Bool :=
  match s.dropWhile isSpace with
  | '\n' :: _ | '\r' :: '\n' :: _ => true
  | _ => false

/-- Reads a string with escapes on several lines; `skipping` takes blanks and line breaks away. -/
def multilineBasic? (skipping : Bool) : List Char → Option (List Char × List Char)
  | [] => none
  | '\r' :: '\n' :: s =>
    if skipping then multilineBasic? true s
    else before (some '\r') (before (some '\n') (multilineBasic? false s))
  | '\n' :: s =>
    if skipping then multilineBasic? true s else before (some '\n') (multilineBasic? false s)
  | '"' :: '"' :: '"' :: s => some (extraQuotes '"' s)
  | '\\' :: 'x' :: a :: b :: s => before (byteEscape? a b) (multilineBasic? false s)
  | '\\' :: 'u' :: a :: b :: c :: d :: s =>
    before (shortEscape? a b c d) (multilineBasic? false s)
  | '\\' :: 'U' :: a :: b :: c :: d :: e :: f :: g :: h :: s =>
    before (longEscape? a b c d e f g h) (multilineBasic? false s)
  | '\\' :: c :: s =>
    if endsLine (c :: s) then multilineBasic? true (c :: s)
    else before (escape? c) (multilineBasic? false s)
  | c :: s =>
    if skipping && isSpace c then multilineBasic? true s
    else if isTextChar c then before (some c) (multilineBasic? false s)
    else none

/-- Reads a string without escapes on several lines. -/
def multilineLiteral? : List Char → Option (List Char × List Char)
  | [] => none
  | '\r' :: '\n' :: s => before (some '\r') (before (some '\n') (multilineLiteral? s))
  | '\n' :: s => before (some '\n') (multilineLiteral? s)
  | '\'' :: '\'' :: '\'' :: s => some (extraQuotes '\'' s)
  | c :: s => if isTextChar c then before (some c) (multilineLiteral? s) else none

/-- A text without the line break at its very beginning. -/
def dropBreak : List Char → List Char
  | '\n' :: s => s
  | '\r' :: '\n' :: s => s
  | s => s

/-- Reads a string with its opening quotes; `none` also for what is no string. -/
def string? : List Char → Option (List Char × List Char)
  | '"' :: '"' :: '"' :: s => multilineBasic? false (dropBreak s)
  | '"' :: s => basic? s
  | '\'' :: '\'' :: '\'' :: s => multilineLiteral? (dropBreak s)
  | '\'' :: s => literal? s
  | _ => none

end Responsive.Toml

import Responsive.Json.Outline
import Responsive.Text.Blank

/-!
# Atoms of patterns

The smallest parts of a pattern: characters, and what is written with a backslash. Whether an atom
may stand somewhere depends on the mode of reading, which a pattern can change on its way: a pattern
is about characters or about single bytes, and blanks in it count or do not.
-/

set_option autoImplicit false
set_option relaxedAutoImplicit false

namespace Responsive.Logging.Pattern

open Text

/-- How a pattern is read. -/
structure Mode where
  /-- The pattern is about characters, and not about bytes. -/
  unicode : Bool := true
  /-- Blanks and comments do not count. -/
  spaced : Bool := false
deriving DecidableEq, Repr

/-- A text without the blanks and comments at its front. A comment ends with its line. -/
def skipBlanks (inComment : Bool) : List Char → List Char
  | [] => []
  | c :: s =>
    if inComment then skipBlanks (c != '\n') s
    else if isBlank c then skipBlanks false s
    else if c == '#' then skipBlanks true s
    else c :: s

/-- A text without what does not count at its front. -/
def Mode.skip (mode : Mode) (s : List Char) : List Char :=
  if mode.spaced then skipBlanks false s else s

/-- The character behind the first one, if the first one is not the last that counts. Of a comment
only the mark is passed over here. -/
def Mode.ahead? (mode : Mode) (s : List Char) : Option Char :=
  if !mode.spaced then s.head?
  else
    match s.dropWhile isBlank with
    | '#' :: s => (s.dropWhile isBlank).head?
    | s => s.head?

/-- An atom. -/
inductive Atom
  | char (c : Char)
  /-- A byte in two hexadecimal digits. -/
  | byte (n : Nat)
  /-- The digits, the blanks or the characters of words, or all that are none. -/
  | kind (negated : Bool)
  /-- The characters of a general category. -/
  | category
  /-- The edge of a word, or any place that is none. -/
  | wordEdge
  /-- The beginning or the end of a line or of the text. -/
  | place
deriving DecidableEq, Repr

namespace Atom

/-- Whether an atom can stand for itself. A pattern about bytes must not split a character. -/
def isAllowed (mode : Mode) : Atom → Bool
  | byte n => mode.unicode || n < 0x80
  | kind negated => mode.unicode || !negated
  | category => mode.unicode
  | char _ | wordEdge | place => true

/-- The code of the one character that an atom stands for inside a class. -/
def code? (mode : Mode) : Atom → Option Nat
  | char c => if mode.unicode || c.toNat < 0x80 then some c.toNat else none
  | byte n => if mode.unicode || n < 0x80 then some n else none
  | kind _ | category | wordEdge | place => none

/-- Whether an atom can be a member of a class. -/
def isMember (mode : Mode) (atom : Atom) : Bool :=
  match atom with
  | char _ | byte _ => (atom.code? mode).isSome
  | kind _ | category => atom.isAllowed mode
  | wordEdge | place => false

end Atom

/-- The value of so many hexadecimal digits. -/
def hexDigits? (mode : Mode) : Nat → Nat → List Char → Option (Nat × List Char)
  | 0, value, s => some (value, s)
  | count + 1, value, s =>
    match mode.skip s with
    | [] => none
    | c :: rest =>
      (Json.hexValue? c).bind fun digit ↦ hexDigits? mode count (16 * value + digit) rest

/-- A character given by hexadecimal digits. -/
def hexChar? (mode : Mode) (count : Nat) (s : List Char) : Option (Atom × List Char) := do
  let (n, rest) ← hexDigits? mode count 0 s
  if n.isValidChar then some (.char (Char.ofNat n), rest) else none

/-- The first letters of the general categories. -/
def categories : List Char :=
  ['c', 'l', 'm', 'n', 'p', 's', 'z']

/-- The atom that a letter or digit behind a backslash makes on its own. -/
def letter? (c : Char) : Option Atom :=
  match c with
  | 'a' => some (.char '\x07')
  | 'f' => some (.char '\x0c')
  | 't' => some (.char '\t')
  | 'n' => some (.char '\n')
  | 'r' => some (.char '\r')
  | 'v' => some (.char '\x0b')
  | 'd' | 's' | 'w' => some (.kind false)
  | 'D' | 'S' | 'W' => some (.kind true)
  | 'A' | 'z' => some .place
  | 'b' | 'B' => some .wordEdge
  | _ => none

/-- Reads an atom behind its backslash. -/
def escape? (mode : Mode) : List Char → Option (Atom × List Char)
  | [] => none
  | 'x' :: s => (hexDigits? mode 2 0 s).map fun found ↦ (.byte found.1, found.2)
  | 'u' :: s => hexChar? mode 4 s
  | 'U' :: s => hexChar? mode 8 s
  | c :: s =>
    if c == 'p' || c == 'P' then
      match mode.skip s with
      | [] => none
      | name :: s => if categories.contains name.toLower then some (.category, s) else none
    else if c.isAlphanum then (letter? c).map (·, s)
    else if c == '<' || c == '>' then some (.wordEdge, s)
    else if c.toNat < 0x80 then some (.char c, s)
    else none

end Responsive.Logging.Pattern

import Responsive.Binary64.Shortest
import Responsive.Json.Basic

/-!
# Printing JSON

Two layouts: `compact`, without any white space, and `pretty`, with one item to a line and two
spaces per level, where an empty array or object stays on its line. In a string only the quote, the
backslash and the control characters below the space are escaped.
-/

set_option autoImplicit false
set_option relaxedAutoImplicit false

namespace Responsive.Json

open Text

/-- A lower-case hexadecimal digit. -/
def hexDigit (n : Nat) : Char :=
  Nat.digitChar n

/-- A character inside a quoted text. -/
def escapeChar (c : Char) : List Char :=
  match c with
  | '"' => ['\\', '"']
  | '\\' => ['\\', '\\']
  | '\n' => ['\\', 'n']
  | '\r' => ['\\', 'r']
  | '\t' => ['\\', 't']
  | '\x08' => ['\\', 'b']
  | '\x0c' => ['\\', 'f']
  | c =>
    if c.toNat < 0x20 then
      ['\\', 'u', '0', '0', hexDigit (c.toNat / 16), hexDigit (c.toNat % 16)]
    else [c]

/-- A text in quotes. -/
def quote (s : List Char) : List Char :=
  '"' :: s.flatMap escapeChar ++ ['"']

/-- The spelling of a number. A float always has a fraction or an exponent. -/
def Number.text : Number → List Char
  | .int n => decimal n
  | .float x => x.numeralText

/-- Parts with a comma between them. -/
def commaJoin (parts : List (List Char)) : List Char :=
  [','].intercalate parts

mutual

/-- A value without any white space. -/
def compactChars : Json → List Char
  | null => ['n', 'u', 'l', 'l']
  | bool true => ['t', 'r', 'u', 'e']
  | bool false => ['f', 'a', 'l', 's', 'e']
  | number n => n.text
  | text s => quote s.toList
  | array items => '[' :: commaJoin (compactItems items) ++ [']']
  | object members => '\x7b' :: commaJoin (compactMembers members) ++ ['\x7d']

/-- The printed items of an array. -/
def compactItems : List Json → List (List Char)
  | [] => []
  | item :: items => compactChars item :: compactItems items

/-- The printed members of an object. -/
def compactMembers : List (String × Json) → List (List Char)
  | [] => []
  | (name, value) :: members =>
    (quote name.toList ++ ':' :: compactChars value) :: compactMembers members

end

/-- A line break and the indentation of a level. -/
def newline (level : Nat) : List Char :=
  '\n' :: List.replicate (2 * level) ' '

/-- Parts between brackets, one to a line; the brackets touch if there is no part. -/
def block (opening closing : Char) (level : Nat) (parts : List (List Char)) : List Char :=
  if parts.isEmpty then [opening, closing]
  else opening :: commaJoin (parts.map (newline (level + 1) ++ ·)) ++ newline level ++ [closing]

mutual

/-- A value with one item to a line, at a level of indentation. -/
def prettyChars (level : Nat) : Json → List Char
  | array items => block '[' ']' level (prettyItems level items)
  | object members => block '\x7b' '\x7d' level (prettyMembers level members)
  | null => ['n', 'u', 'l', 'l']
  | bool true => ['t', 'r', 'u', 'e']
  | bool false => ['f', 'a', 'l', 's', 'e']
  | number n => n.text
  | text s => quote s.toList

/-- The printed items of an array, one level further in. -/
def prettyItems (level : Nat) : List Json → List (List Char)
  | [] => []
  | item :: items => prettyChars (level + 1) item :: prettyItems level items

/-- The printed members of an object, one level further in. -/
def prettyMembers (level : Nat) : List (String × Json) → List (List Char)
  | [] => []
  | (name, value) :: members =>
    (quote name.toList ++ ':' :: ' ' :: prettyChars (level + 1) value) ::
      prettyMembers level members

end

/-- A value as one line of text. -/
def compact (value : Json) : String :=
  .ofList value.compactChars

/-- A value as indented text. -/
def pretty (value : Json) : String :=
  .ofList (value.prettyChars 0)

/-- An object whose members keep the order they are given in, as one line of text. -/
def compactRecord (fields : List (String × Json)) : String :=
  compact (object fields)

theorem compactItems_eq_map (items : List Json) : compactItems items = items.map compactChars := by
  induction items with
  | nil => rfl
  | cons item items ih => rw [compactItems, ih, List.map_cons]

end Responsive.Json

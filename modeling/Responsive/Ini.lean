import Responsive.Json.Basic
import Responsive.Json.Outline
import Responsive.Text.Blank

/-!
# Reading INI

Keys with values, which are texts always, and sections of them. A value ends with its line and may
begin with parts in quotes, a key ends with an equals sign or a colon, and a backslash escapes a
character anywhere. A section that comes twice counts from its last header on.

* `read?_empty`: an empty text has no members.
-/

set_option autoImplicit false
set_option relaxedAutoImplicit false

namespace Responsive.Ini

open Text

/-- The character that one behind a backslash stands for; none at the end of a line. -/
def escape (c : Char) : List Char :=
  match c with
  | '0' => ['\x00']
  | 'a' => ['\x07']
  | 'b' => ['\x08']
  | 't' => ['\t']
  | 'r' => ['\r']
  | 'n' => ['\n']
  | '\n' => []
  | c => [c]

/-- The character whose number has these digits. -/
def codeChar? (a b c d : Char) : Option Char := do
  let code ← Json.hexUnit? a b c d
  if code.isValidChar then some (Char.ofNat code) else none

/-- Reads up to a character of a class, or up to the end if that is allowed. -/
def until? (isEnd : Char → Bool) (orEnd : Bool) : List Char → Option (List Char × List Char)
  | [] => if orEnd then some ([], []) else none
  | '\\' :: 'x' :: a :: b :: c :: d :: s => do
    let code ← codeChar? a b c d
    let (chars, rest) ← until? isEnd orEnd s
    some (code :: chars, rest)
  | '\\' :: c :: s =>
    if c == 'x' then none
    else (until? isEnd orEnd s).map fun (chars, rest) ↦ (escape c ++ chars, rest)
  | c :: s =>
    if isEnd c then some ([], c :: s)
    else if c == '\\' then none
    else (until? isEnd orEnd s).map fun (chars, rest) ↦ (c :: chars, rest)

/-- The end of a line. -/
def isLineEnd (c : Char) : Bool :=
  c == '\n' || c == '\r'

/-- The text without the blanks at its end. -/
def trimEnd (s : List Char) : List Char :=
  (s.reverse.dropWhile isBlank).reverse

/-- Reads the rest of a value: parts in quotes, and then everything up to the end of the line. -/
def valueParts? : Nat → (List Char → List Char) → List Char → Option (List Char × List Char)
  | 0, _, _ => none
  | fuel + 1, trimmed, s =>
    match s with
    | [] => some ([], [])
    | c :: rest =>
      if c == '"' || c == '\'' then do
        let (part, rest) ← until? (· == c) false rest
        let (parts, rest) ← valueParts? fuel trimEnd (rest.drop 1)
        some (part ++ parts, rest)
      else (until? isLineEnd true s).map fun (part, rest) ↦ (trimmed part, rest)

/-- Reads a value behind the sign that separates it from its key. -/
def value? (s : List Char) : Option (List Char × List Char) :=
  valueParts? (s.length + 1) trim (s.dropWhile fun c ↦ isBlank c && !isLineEnd c)

/-- What a text says: values for keys, and the sections that they are in. -/
inductive Statement
  | header (name : String)
  | entry (key value : String)
deriving DecidableEq, Repr

/-- The text behind its first blanks, and whether its line begins there. -/
def gap (atStart : Bool) : List Char → Bool × List Char
  | [] => (atStart, [])
  | c :: s => if isBlank c then gap (c == '\n') s else (atStart, c :: s)

/-- A trimmed text. -/
def name (s : List Char) : String :=
  .ofList (trim s)

/-- Reads a header or a key with its value. -/
def statement? (s : List Char) : Option (Statement × List Char) :=
  match s with
  | '[' :: s => (until? (· == ']') false s).map fun (chars, rest) ↦
    (.header (name chars), rest.drop 1)
  | s => do
    let (key, rest) ← until? (fun c ↦ c == '=' || c == ':') false s
    if (trim key).isEmpty then none
    let (value, rest) ← value? (rest.drop 1)
    some (.entry (name key) (.ofList value), rest)

/-- Reads all statements; the fuel bounds their number together with the one of the comments, which
begin their lines. -/
def statements? : Nat → Bool → List Char → Option (List Statement)
  | 0, _, _ => none
  | fuel + 1, atStart, s =>
    match gap atStart s with
    | (_, []) => some []
    | (atStart, c :: s) =>
      if c == ';' || c == '#' then
        if atStart then statements? fuel true ((s.dropWhile (· != '\n')).drop 1) else none
      else do
        let (statement, rest) ← statement? (c :: s)
        return statement :: (← statements? fuel false rest)

/-- The members that come before the first header, and behind each header with its name. -/
def sections : List Statement → List (String × Json) × List (String × List (String × Json))
  | [] => ([], [])
  | .entry key value :: rest =>
    let (members, later) := sections rest
    ((key, .text value) :: members, later)
  | .header name :: rest =>
    let (members, later) := sections rest
    ([], (name, members) :: later)

/-- Reads a text as an object, whose sections are objects. -/
def read? (s : String) : Option Json :=
  (statements? (s.length + 1) true s.toList).map fun statements ↦
    let (members, later) := sections statements
    .ofPairs (members ++ later.map fun (name, members) ↦ (name, .ofPairs members))

/-- An empty text has no members. -/
theorem read?_empty : read? "" = some (.object []) := by
  simp [read?, statements?, gap, sections, Json.ofPairs, Entries.ofPairs]

end Responsive.Ini

import Responsive.Text.Utf8
import Responsive.Toml.Scalar
import Responsive.Toml.Text
import Responsive.Toml.Tree

/-!
# TOML documents

A document is a sequence of lines, each with a key and its value, with the header of a table, or
with neither. `read?` gives the value of a whole document, which is always an object, or `none` for
a text with a fault.
-/

set_option autoImplicit false
set_option relaxedAutoImplicit false

namespace Responsive.Toml

/-- How deeply arrays and inline tables may nest, and how many parts a key may have. -/
def nestingLimit : Nat := 80

/-- A character of a key without quotes. -/
def isBareChar (c : Char) : Bool :=
  c.isAlphanum || c == '_' || c == '-'

/-- The text without blanks at its front. -/
def skipSpace (s : List Char) : List Char :=
  s.dropWhile isSpace

/-- The text without blanks, line breaks and comments at its front. -/
def skipLines? (inComment : Bool) : List Char → Option (List Char)
  | [] => some []
  | '\r' :: '\n' :: s => skipLines? false s
  | '\n' :: s => skipLines? false s
  | c :: s =>
    if inComment then if isTextChar c then skipLines? true s else none
    else if isSpace c then skipLines? false s
    else if c == '#' then skipLines? true s
    else some (c :: s)

/-- The text behind the end of the line, before which only blanks and a comment may stand. -/
def endLine? (inComment : Bool) : List Char → Option (List Char)
  | [] => some []
  | '\r' :: '\n' :: s => some s
  | '\n' :: s => some s
  | c :: s =>
    if inComment then if isTextChar c then endLine? true s else none
    else if isSpace c then endLine? false s
    else if c == '#' then endLine? true s
    else none

/-- Reads one part of a key. -/
def keyPart? (s : List Char) : Option (String × List Char) :=
  match s with
  | '"' :: s => (basic? s).map fun found ↦ (.ofList found.1, found.2)
  | '\'' :: s => (literal? s).map fun found ↦ (.ofList found.1, found.2)
  | s =>
    match s.takeWhile isBareChar with
    | [] => none
    | name => some (.ofList name, s.dropWhile isBareChar)

/-- Reads a key with blanks around its parts; the fuel bounds their number. -/
def key? : Nat → List Char → Option (List String × List Char)
  | 0, _ => none
  | fuel + 1, s => do
    let (part, rest) ← keyPart? (skipSpace s)
    match skipSpace rest with
    | '.' :: rest => do
      let (parts, rest) ← key? fuel rest
      some (part :: parts, rest)
    | rest => some ([part], rest)

/-- Reads a key and the equals sign behind it; `skip` takes away what may stand around the sign. -/
def keyEquals? (skip : List Char → Option (List Char)) (s : List Char) :
    Option (List String × List Char) := do
  let (path, rest) ← key? nestingLimit s
  match ← skip rest with
  | '=' :: rest => some (path, ← skip rest)
  | _ => none

mutual

/-- Reads a value. The first number bounds the steps, the second one the nesting. -/
def value? : Nat → Nat → List Char → Option (Json × List Char)
  | 0, _, _ => none
  | fuel + 1, depth, s =>
    match s with
    | '[' :: s => if depth = 0 then none else items? fuel (depth - 1) s
    | '\x7b' :: s =>
      if depth = 0 then none else members? fuel (depth - 1) [] s
    | s =>
      match s with
      | '"' :: _ | '\'' :: _ => (string? s).map fun found ↦ (.text (.ofList found.1), found.2)
      | s =>
        let (word, rest) := scalarSpan s
        (scalar? word).map (·, rest)

/-- Reads the items of an array up to its closing bracket. -/
def items? : Nat → Nat → List Char → Option (Json × List Char)
  | 0, _, _ => none
  | fuel + 1, depth, s => do
    match ← skipLines? false s with
    | ']' :: rest => some (.array [], rest)
    | s => do
      let (item, rest) ← value? fuel depth s
      match ← skipLines? false rest with
      | ']' :: rest => some (.array [item], rest)
      | ',' :: rest =>
        match ← items? fuel depth rest with
        | (.array items, rest) => some (.array (item :: items), rest)
        | _ => none
      | _ => none

/-- Reads the members of an inline table up to its closing brace. -/
def members? : Nat → Nat → Members → List Char → Option (Json × List Char)
  | 0, _, _, _ => none
  | fuel + 1, depth, members, s => do
    match ← skipLines? false s with
    | '\x7d' :: rest => some (.ofPairs (Members.toPairs members), rest)
    | s => do
      let (path, rest) ← keyEquals? (skipLines? false) s
      let (v, rest) ← value? fuel depth rest
      let members ← Members.define v path true members
      match ← skipLines? false rest with
      | '\x7d' :: rest => some (.ofPairs (Members.toPairs members), rest)
      | ',' :: rest => members? fuel depth members rest
      | _ => none

end

/-- A document that has been read up to some line. -/
structure Draft where
  root : Members := []
  /-- The table that the last header has opened. -/
  current : List String := []

namespace Draft

/-- Reads the header of a table behind its opening bracket or brackets. -/
def header? (draft : Draft) (openIt : List String → Members → Option Members) (closing : List Char)
    (s : List Char) : Option (Draft × List Char) := do
  let (path, rest) ← key? nestingLimit s
  if closing.isPrefixOf rest then
    let root ← openIt path draft.root
    some ({ root, current := path }, rest.drop closing.length)
  else none

/-- Reads a key and its value. -/
def assignment? (draft : Draft) (s : List Char) : Option (Draft × List Char) := do
  let (path, rest) ← keyEquals? (fun s ↦ some (skipSpace s)) s
  let (v, rest) ← value? (2 * s.length + 2) nestingLimit rest
  let root ← Members.within (Members.define v path true) draft.current draft.root
  some ({ draft with root }, rest)

/-- Reads what stands at the beginning of a line. -/
def statement? (draft : Draft) (s : List Char) : Option (Draft × List Char) :=
  match s with
  | '[' :: '[' :: s => draft.header? Members.openRow [']', ']'] s
  | '[' :: s => draft.header? Members.openTable [']'] s
  | s => draft.assignment? s

/-- Reads line after line; the fuel bounds their number. -/
def finish? : Nat → Draft → List Char → Option Members
  | 0, _, _ => none
  | fuel + 1, draft, s => do
    match ← skipLines? false s with
    | [] => some draft.root
    | s => do
      let (draft, rest) ← draft.statement? s
      finish? fuel draft (← endLine? false rest)

end Draft

/-- Reads a document, at whose front a byte order mark may stand. -/
def read? (s : String) : Option Json :=
  (Draft.finish? (s.length + 1) {} (Text.withoutMark s.toList)).map fun members ↦
    .ofPairs (Members.toPairs members)

end Responsive.Toml

import Responsive.Json.Numeral

/-!
# Outlines of JSON texts

The lexical structure of a text that may break off. An outline keeps everything up to the first
fault: members and items before it are there, and the value at the fault is `broken`. A reader that
looks for a record can so report a wrong value that stands before the fault, and pass over members
that it does not know without asking more of them than their form.

Three things are checked only when a value is used: that a number is within the floats, that the
surrogates of a string pair up, and how deeply containers nest.
-/

set_option autoImplicit false
set_option relaxedAutoImplicit false

namespace Responsive.Json

/-- The structure of a text up to its first fault. -/
inductive Outline
  | null
  | bool (b : Bool)
  /-- A number; `none` beyond the floats. -/
  | number (n : Option Number)
  /-- A string; `none` if it holds half of a surrogate pair. -/
  | text (s : Option String)
  /-- Items, and whether the closing bracket is reached. -/
  | array (items : List Outline) (closed : Bool)
  /-- Members in the order of the text, repeated names included, and whether the closing brace is
  reached. -/
  | object (members : List (Outline × Outline)) (closed : Bool)
  /-- The place of the fault. -/
  | broken
deriving Inhabited

/-- A part of a string: a character, or a 16-bit unit from an escape. -/
inductive StringPart
  | char (c : Char)
  | unit (n : Nat)
deriving DecidableEq, Repr

/-- White space between tokens. -/
def isSpace (c : Char) : Bool :=
  c == ' ' || c == '\n' || c == '\t' || c == '\r'

/-- The text without leading white space. -/
def skipSpace (s : List Char) : List Char :=
  s.dropWhile isSpace

/-- The value of a hexadecimal digit. -/
def hexValue? (c : Char) : Option Nat :=
  if c.isDigit then some (c.toNat - 48)
  else if 'a' ≤ c ∧ c ≤ 'f' then some (c.toNat - 87)
  else if 'A' ≤ c ∧ c ≤ 'F' then some (c.toNat - 55)
  else none

/-- The value of four hexadecimal digits. -/
def hexUnit? (a b c d : Char) : Option Nat := do
  some (((← hexValue? a) * 16 + (← hexValue? b)) * 256 + (← hexValue? c) * 16 + (← hexValue? d))

/-- The character that a one-letter escape stands for. -/
def simpleEscape? (c : Char) : Option Char :=
  match c with
  | '"' | '\\' | '/' => some c
  | 'b' => some '\x08'
  | 'f' => some '\x0c'
  | 'n' => some '\n'
  | 'r' => some '\r'
  | 't' => some '\t'
  | _ => none

/-- Reads a string behind its opening quote, up to and including the closing one. -/
def stringParts? : List Char → Option (List StringPart × List Char)
  | [] => none
  | '"' :: s => some ([], s)
  | '\\' :: 'u' :: a :: b :: c :: d :: s => do
    let n ← hexUnit? a b c d
    let (parts, rest) ← stringParts? s
    some (.unit n :: parts, rest)
  | '\\' :: e :: s => do
    let c ← simpleEscape? e
    let (parts, rest) ← stringParts? s
    some (.char c :: parts, rest)
  | c :: s =>
    if c.toNat < 0x20 then none
    else (stringParts? s).map fun found ↦ (.char c :: found.1, found.2)

/-- Whether a unit is the first half of a pair. -/
def isHighUnit (n : Nat) : Bool := 0xD800 ≤ n && n < 0xDC00

/-- Whether a unit is the second half of a pair. -/
def isLowUnit (n : Nat) : Bool := 0xDC00 ≤ n && n < 0xE000

/-- The characters of a string; `none` if half of a surrogate pair stands alone. -/
def joinParts? : List StringPart → Option (List Char)
  | [] => some []
  | .char c :: parts => (joinParts? parts).map (c :: ·)
  | .unit h :: .unit l :: parts =>
    if isHighUnit h then
      if isLowUnit l then
        (joinParts? parts).map (Char.ofNat (0x10000 + (h - 0xD800) * 0x400 + (l - 0xDC00)) :: ·)
      else none
    else if isLowUnit h then none
    else (joinParts? (.unit l :: parts)).map (Char.ofNat h :: ·)
  | .unit n :: parts =>
    if isHighUnit n || isLowUnit n then none
    else (joinParts? parts).map (Char.ofNat n :: ·)

namespace Outline

/-- Reads a string behind its opening quote; the rest is `none` if the string has a fault. -/
def readString (s : List Char) : Outline × Option (List Char) :=
  match stringParts? s with
  | none => (broken, none)
  | some (parts, rest) => (text ((joinParts? parts).map .ofList), some rest)

/-- Reads a numeral. -/
def readNumber (s : List Char) : Outline × Option (List Char) :=
  match Numeral.read? s with
  | none => (broken, none)
  | some (numeral, rest) => (number numeral.value?, some rest)

mutual

/-- Reads a value off a text. The rest is `none` if the value has a fault. The first argument bounds
the steps; every second step uses up a character. -/
def readValue : Nat → List Char → Outline × Option (List Char)
  | 0, _ => (broken, none)
  | fuel + 1, s =>
    match skipSpace s with
    | 'n' :: 'u' :: 'l' :: 'l' :: rest => (null, some rest)
    | 't' :: 'r' :: 'u' :: 'e' :: rest => (bool true, some rest)
    | 'f' :: 'a' :: 'l' :: 's' :: 'e' :: rest => (bool false, some rest)
    | '"' :: rest => readString rest
    | '[' :: rest =>
      match skipSpace rest with
      | ']' :: rest => (array [] true, some rest)
      | rest =>
        let (items, rest) := readItems fuel rest
        (array items rest.isSome, rest)
    | '\x7b' :: rest =>
      match skipSpace rest with
      | '\x7d' :: rest => (object [] true, some rest)
      | rest =>
        let (members, rest) := readMembers fuel rest
        (object members rest.isSome, rest)
    | rest => readNumber rest

/-- Reads the items of an array up to its closing bracket. -/
def readItems : Nat → List Char → List Outline × Option (List Char)
  | 0, _ => ([], none)
  | fuel + 1, s =>
    match readValue fuel s with
    | (item, none) => ([item], none)
    | (item, some rest) =>
      match skipSpace rest with
      | ']' :: rest => ([item], some rest)
      | ',' :: rest =>
        let (items, rest) := readItems fuel rest
        (item :: items, rest)
      | _ => ([item], none)

/-- Reads the members of an object up to its closing brace. -/
def readMembers : Nat → List Char → List (Outline × Outline) × Option (List Char)
  | 0, _ => ([], none)
  | fuel + 1, s =>
    match readValue fuel s with
    | (text name, some rest) =>
      match skipSpace rest with
      | ':' :: rest =>
        match readValue fuel rest with
        | (value, none) => ([(text name, value)], none)
        | (value, some rest) =>
          match skipSpace rest with
          | '\x7d' :: rest => ([(text name, value)], some rest)
          | ',' :: rest =>
            let (members, rest) := readMembers fuel rest
            ((text name, value) :: members, rest)
          | _ => ([(text name, value)], none)
      | _ => ([(text name, broken)], none)
    | (key, _) => ([(key, broken)], none)

end

/-- The outline of the value that a text begins with, and the rest behind it. -/
def read (s : List Char) : Outline × Option (List Char) :=
  readValue (2 * s.length + 2) s

mutual

/-- Whether the text of the outline has no fault. -/
def isWhole : Outline → Bool
  | array items closed => closed && areWhole items
  | object members closed => closed && membersWhole members
  | broken => false
  | _ => true

/-- Whether no item has a fault. -/
def areWhole : List Outline → Bool
  | [] => true
  | item :: items => isWhole item && areWhole items

/-- Whether no member has a fault. -/
def membersWhole : List (Outline × Outline) → Bool
  | [] => true
  | (name, value) :: members => isWhole name && isWhole value && membersWhole members

end

/-- The name of a member, if it is a proper string. -/
def name? : Outline → Option String
  | text s => s
  | _ => none

mutual

/-- The value of an outline without fault whose containers nest less than `depth` levels deep. Of
two members with one name the later one counts. -/
def value? (depth : Nat) : Outline → Option Json
  | null => some .null
  | bool b => some (.bool b)
  | number n => n.map .number
  | text s => s.map .text
  | array items closed =>
    if closed && 1 < depth then (values? (depth - 1) items).map .array else none
  | object members closed =>
    if closed && 1 < depth then (members? (depth - 1) members).map .ofPairs else none
  | broken => none

/-- The values of all items. -/
def values? (depth : Nat) : List Outline → Option (List Json)
  | [] => some []
  | item :: items => do
    let v ← value? depth item
    let vs ← values? depth items
    some (v :: vs)

/-- The names and values of all members. -/
def members? (depth : Nat) : List (Outline × Outline) → Option (List (String × Json))
  | [] => some []
  | (name, value) :: members => do
    let n ← name.name?
    let v ← value? depth value
    let vs ← members? depth members
    some ((n, v) :: vs)

end

mutual

/-- The outline of a value. -/
def ofJson : Json → Outline
  | .null => null
  | .bool b => bool b
  | .number n => number (some n)
  | .text s => text (some s)
  | .array items => array (ofItems items) true
  | .object members => object (ofMembers members) true

/-- The outlines of items. -/
def ofItems : List Json → List Outline
  | [] => []
  | item :: items => ofJson item :: ofItems items

/-- The outlines of members. -/
def ofMembers : List (String × Json) → List (Outline × Outline)
  | [] => []
  | (name, value) :: members => (text (some name), ofJson value) :: ofMembers members

end

end Outline

/-- One more than the deepest nesting of containers that a reader accepts. -/
def depthLimit : Nat := 128

/-- Reads a text that is one value, with white space around it. -/
def read? (s : String) : Option Json :=
  match Outline.read s.toList with
  | (outline, some rest) =>
    if (skipSpace rest).isEmpty then outline.value? depthLimit else none
  | (_, none) => none

/-- `read?`, for a depth of nesting that the text itself bounds. -/
def readDeep? (s : String) : Option Json :=
  match Outline.read s.toList with
  | (outline, some rest) =>
    if (skipSpace rest).isEmpty then outline.value? (s.length + 2) else none
  | (_, none) => none

end Responsive.Json

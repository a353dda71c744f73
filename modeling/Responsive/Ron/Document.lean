import Responsive.Ron.Scalar

/-!
# Reading RON

Records with named fields and mappings are objects, lists and records without names are arrays, and
the names of records do not count. An optional value is there or `null`, and so is a name alone.
-/

set_option autoImplicit false
set_option relaxedAutoImplicit false

namespace Responsive.Ron

/-- How deeply values may nest. -/
def nestingLimit : Nat := 128

/-- The text behind a gap and the comma there, if there is one, and another gap. Also tells whether
there is. -/
def comma? (s : List Char) : Option (Bool × List Char) := do
  match ← gap? s with
  | ',' :: s => return (true, ← gap? s)
  | s => return (false, s)

/-- Whether the fields of a record have names. -/
def hasNames (s : List Char) : Bool :=
  (word? s).any fun (_, rest) ↦ (gap? rest).any (·.head? == some ':')

/-- The value of a word without anything behind it, if it is not merely a name. -/
def wordValue? (word : String) : Option Json :=
  match word with
  | "true" => some (.bool true)
  | "false" => some (.bool false)
  | "None" => some .null
  | word => (namedFloat? false word).map fun x ↦ .number (.float x)

mutual

/-- Reads a value; `depth` says how deeply others may nest in it. -/
def value? : Nat → Nat → List Char → Option (Json × List Char)
  | 0, _, _ => none
  | fuel + 1, depth, s =>
    match word? s with
    | some (word, rest) =>
      match wordValue? word with
      | some value => some (value, rest)
      | none => do
        let rest ← gap? rest
        if word == "Some" then optional? fuel depth rest
        else if rest.head? == some '(' then record? fuel depth (rest.drop 1)
        else return (.null, rest)
    | none =>
      match s with
      | '(' :: ')' :: rest => some (.null, rest)
      | '(' :: rest => record? fuel depth rest
      | '[' :: rest => do items? fuel depth ']' (← gap? rest)
      | '\x7b' :: rest => do members? fuel depth (← gap? rest)
      | c :: _ => if c.isDigit || c == '+' || c == '-' || c == '.' then number? s else text? s
      | [] => none

/-- Reads a value inside another one. -/
def inner? : Nat → Nat → List Char → Option (Json × List Char)
  | 0, _, _ => none
  | fuel + 1, depth, s => if depth = 0 then none else value? fuel (depth - 1) s

/-- Reads an optional value behind the word for it. -/
def optional? : Nat → Nat → List Char → Option (Json × List Char)
  | 0, _, _ => none
  | fuel + 1, depth, s =>
    match s with
    | '(' :: s => do
      let (value, rest) ← inner? fuel depth (← gap? s)
      match (← comma? rest).2 with
      | ')' :: rest => some (value, rest)
      | _ => none
    | _ => none

/-- Reads the fields of a record behind its parenthesis. -/
def record? : Nat → Nat → List Char → Option (Json × List Char)
  | 0, _, _ => none
  | fuel + 1, depth, s => do
    let s ← gap? s
    if hasNames s then fields? fuel depth s else items? fuel depth ')' s

/-- Reads items up to the sign that ends them. -/
def items? : Nat → Nat → Char → List Char → Option (Json × List Char)
  | 0, _, _, _ => none
  | fuel + 1, depth, closing, s =>
    if s.head? == some closing then some (.array [], s.drop 1)
    else do
      let (item, rest) ← inner? fuel depth s
      let (more, rest) ← comma? rest
      if !more && rest.head? != some closing then none
      match ← items? fuel depth closing rest with
      | (.array items, rest) => some (.array (item :: items), rest)
      | _ => none

/-- Reads the named fields of a record up to its parenthesis. -/
def fields? : Nat → Nat → List Char → Option (Json × List Char)
  | 0, _, _ => none
  | fuel + 1, depth, s =>
    match s with
    | ')' :: rest => some (.object [], rest)
    | s => do
      let (name, rest) ← word? s
      match ← gap? rest with
      | ':' :: rest => memberAnd? fuel depth ')' name (← gap? rest)
      | _ => none

/-- Reads the members of a mapping up to its brace. -/
def members? : Nat → Nat → List Char → Option (Json × List Char)
  | 0, _, _ => none
  | fuel + 1, depth, s =>
    match s with
    | '\x7d' :: rest => some (.object [], rest)
    | s => do
      let (key, rest) ← inner? fuel depth s
      match key, ← gap? rest with
      | .text name, ':' :: rest => memberAnd? fuel depth '\x7d' name (← gap? rest)
      | _, _ => none

/-- Reads the value of a member and the members behind it. Of two with one name the later one
counts. -/
def memberAnd? : Nat → Nat → Char → String → List Char → Option (Json × List Char)
  | 0, _, _, _, _ => none
  | fuel + 1, depth, closing, name, s => do
    let (value, rest) ← inner? fuel depth s
    let (more, rest) ← comma? rest
    if !more && rest.head? != some closing then none
    match ← if closing == ')' then fields? fuel depth rest else members? fuel depth rest with
    | (.object members, rest) =>
      some (.object (if (Entries.get? members name).isSome then members
        else Entries.insert name value members), rest)
    | _ => none

end

/-- The names of the extensions that a text may ask for. -/
def extensions : List String :=
  ["unwrap_newtypes", "implicit_some", "unwrap_variant_newtypes", "explicit_struct_names"]

/-- The text behind characters, each of which may follow a gap. -/
def expect? : List Char → List Char → Option (List Char)
  | [], s => some s
  | c :: cs, s => do
    match ← gap? s with
    | d :: rest => if c == d then expect? cs rest else none
    | [] => none

/-- The text behind the names of extensions. -/
def pastExtensions? : Nat → List Char → Option (List Char)
  | 0, _ => none
  | fuel + 1, s => do
    let (name, rest) ← word? s
    if !extensions.contains name then none
    let (more, rest) ← comma? rest
    if more && (word? rest).isSome then pastExtensions? fuel rest else some rest

/-- The text behind the lines that ask for extensions, which change nothing here. -/
def pastAttributes? : Nat → List Char → Option (List Char)
  | 0, _ => none
  | fuel + 1, s => do
    let s ← gap? s
    if s.head? != some '#' then return s
    match word? (← gap? (← expect? ['#', '!', '['] s)) with
    | some ("enable", rest) =>
      let rest ← pastExtensions? fuel (← gap? (← expect? ['('] rest))
      pastAttributes? fuel (← expect? [')', ']'] rest)
    | _ => none

/-- Reads a text of one value. -/
def read? (s : String) : Option Json := do
  let fuel := 4 * s.length + 4
  let (value, rest) ← value? fuel nestingLimit (← pastAttributes? fuel s.toList)
  if (← gap? rest).isEmpty then some value else none

end Responsive.Ron

import Responsive.Logging.Pattern.Atom

/-!
# Classes of characters

A class in brackets has characters, ranges and other classes as its members, and may be combined
with others by `&&`, `--` and `~~`, which group to the left. Of a class it matters only how deeply
it nests and, in a pattern about bytes, whether it holds the bytes that are no ASCII: it then holds
all of them, and is refused, because one of them could split a character.
-/

set_option autoImplicit false
set_option relaxedAutoImplicit false

namespace Responsive.Logging.Pattern

/-- What matters of a class. -/
structure Extent where
  depth : Nat := 0
  /-- It holds the bytes beyond ASCII. -/
  high : Bool := false
deriving DecidableEq, Repr

/-- The ways to combine two classes. -/
inductive Combination
  | intersection
  | difference
  | symmetricDifference
deriving DecidableEq, Repr

namespace Extent

/-- Members side by side. -/
def union : List Extent → Extent
  | [] => {}
  | [extent] => extent
  | extents =>
    { depth := 1 + extents.foldl (fun n e ↦ max n e.depth) 0, high := extents.any (·.high) }

/-- A class behind a pending combination. -/
def behind (pending : Option (Extent × Combination)) (right : Extent) : Extent :=
  match pending with
  | none => right
  | some (left, combination) =>
    { depth := 1 + max left.depth right.depth
      high :=
        match combination with
        | .intersection => left.high && right.high
        | .difference => left.high && !right.high
        | .symmetricDifference => left.high != right.high }

/-- A class in its brackets, unless it could split a character. -/
def closed? (mode : Mode) (negated : Bool) (inner : Extent) : Option Extent :=
  let high := inner.high != negated
  if high && !mode.unicode then none else some { depth := inner.depth + 1, high }

end Extent

/-- The names of classes of ASCII. -/
def asciiNames : List String :=
  ["alnum", "alpha", "ascii", "blank", "cntrl", "digit", "graph", "lower", "print", "punct",
    "space", "upper", "word", "xdigit"]

/-- Reads a named class, as in `[:alpha:]`, behind its opening bracket. -/
def named? (s : List Char) : Option (Extent × List Char) := do
  let ':' :: s := s | none
  let (negated, s) := match s with
    | '^' :: s => (true, s)
    | s => (false, s)
  match s.dropWhile (· != ':') with
  | ':' :: ']' :: rest =>
    if asciiNames.contains (.ofList (s.takeWhile (· != ':'))) then some ({ high := negated }, rest)
    else none
  | _ => none

/-- Reads an atom inside a class. -/
def member? (mode : Mode) : List Char → Option (Atom × List Char)
  | [] => none
  | '\\' :: s => escape? mode s
  | c :: s => some (.char c, s)

/-- Reads a member of a class or a range of characters, and gives what stands behind it. -/
def range? (mode : Mode) (s : List Char) : Option (List Char) := do
  let (first, rest) ← member? mode s
  match mode.skip rest with
  | '-' :: tail =>
    let next := mode.ahead? tail
    if next == some ']' || next == some '-' then
      if first.isMember mode then some ('-' :: tail) else none
    else
      let (last, rest) ← member? mode (mode.skip tail)
      if (← first.code? mode) ≤ (← last.code? mode) then some rest else none
  | rest => if first.isMember mode then some rest else none

/-- The hyphens at the front of a class, which stand for themselves; the fuel bounds their
number. -/
def hyphens (mode : Mode) : Nat → List Char → List Extent × List Char
  | 0, s => ([], s)
  | fuel + 1, s =>
    match s with
    | '-' :: s =>
      let (found, rest) := hyphens mode fuel (mode.skip s)
      ({} :: found, rest)
    | s => ([], s)

/-- Reads the front of a class behind its opening bracket: whether it is negated, and the members
that would mean something else further behind. -/
def opening (mode : Mode) (s : List Char) : Bool × List Extent × List Char :=
  let (negated, s) := match mode.skip s with
    | '^' :: s => (true, mode.skip s)
    | s => (false, s)
  match hyphens mode s.length s with
  | ([], ']' :: rest) => (negated, [{}], rest)
  | (found, rest) => (negated, found, rest)

/-- Reads a class up to its closing bracket. The fuel bounds the steps. -/
def members? (mode : Mode) :
    Nat → Option (Extent × Combination) → List Extent → List Char → Option (Extent × List Char)
  | 0, _, _, _ => none
  | fuel + 1, pending, found, s =>
    let combined (combination : Combination) (rest : List Char) :=
      members? mode fuel (some ((Extent.union found).behind pending, combination)) [] rest
    match mode.skip s with
    | [] => none
    | ']' :: rest => some ((Extent.union found).behind pending, rest)
    | '[' :: rest =>
      match named? rest with
      | some (extent, rest) => members? mode fuel pending (extent :: found) rest
      | none => do
        let (negated, front, rest) := opening mode rest
        let (inner, rest) ← members? mode fuel none front rest
        members? mode fuel pending ((← inner.closed? mode negated) :: found) rest
    | '&' :: '&' :: rest => combined .intersection rest
    | '-' :: '-' :: rest => combined .difference rest
    | '~' :: '~' :: rest => combined .symmetricDifference rest
    | s => do members? mode fuel pending ({} :: found) (← range? mode s)

/-- Reads a class behind its opening bracket. -/
def charClass? (mode : Mode) (s : List Char) : Option (Extent × List Char) := do
  let (negated, front, rest) := opening mode s
  let (inner, rest) ← members? mode (s.length + 1) none front rest
  some (← inner.closed? mode negated, rest)

end Responsive.Logging.Pattern

import Responsive.Logging.Pattern.CharClass
import Responsive.Text.Alphanumeric

/-!
# Patterns for the values of fields

A condition on a field may ask for values that fit a pattern, a regular expression. No event outside
of spans is ever compared with one, so of a pattern only this matters: whether it is one. `fault?`
tells what is wrong with it.

A pattern stands between an equals sign and a comma or a closing brace, so it holds no complete pair
of braces, and every opening brace outside of a class is a fault.
-/

set_option autoImplicit false
set_option relaxedAutoImplicit false

namespace Responsive.Logging.Pattern

/-- What is wrong with a pattern. -/
inductive Fault
  /-- It is none. -/
  | malformed
  /-- It asks for the edges of words of any script. -/
  | wordEdges
deriving DecidableEq, Repr

/-- The text of a fault. -/
def Fault.message : Fault → String
  | malformed => "error building NFA"
  | wordEdges =>
    "unsupported regex feature for DFAs: cannot build DFAs for regexes with Unicode word " ++
      "boundaries; switch to ASCII word boundaries, or heuristically enable Unicode word " ++
      "boundaries or use a different regex engine"

/-- How deeply a pattern may nest. -/
def nestingLimit : Nat := 250

/-- The depth of parts that stand together, which only counts if there are several. -/
def together : List Nat → Nat
  | [] => 0
  | [depth] => depth
  | depths => 1 + depths.foldl max 0

/-- What has been read of a pattern. -/
structure Progress where
  rest : List Char
  mode : Mode := {}
  /-- The names of groups. -/
  names : List (List Char) := []
  /-- The pattern asks for the edges of words of any script. -/
  edges : Bool := false
deriving Repr

/-- Whether a text can be the name of a group. -/
def isGroupName (s : List Char) : Bool :=
  match s with
  | [] => false
  | c :: s =>
    (c == '_' || Text.isAlphabetic c) &&
      s.all fun c ↦ c == '_' || c == '.' || c == '[' || c == ']' || Text.isAlphanumeric c

/-- The letters of flags. -/
def flagLetters : List Char :=
  ['i', 'm', 's', 'U', 'u', 'R', 'x']

/-- Reads flags, which change a mode, up to the character that ends them. No letter may stand there
twice, and no minus sign at the end. -/
def flags? (mode : Mode) (seen : List Char) : List Char → Option (Mode × List Char)
  | [] => none
  | c :: s =>
    if c == ':' || c == ')' then
      if seen.head? == some '-' || (c == ')' && seen.isEmpty) then none else some (mode, c :: s)
    else if seen.contains c then none
    else if c == '-' then flags? mode (c :: seen) s
    else if flagLetters.contains c then
      let on := !seen.contains '-'
      let mode := match c with
        | 'u' => { mode with unicode := on }
        | 'x' => { mode with spaced := on }
        | _ => mode
      flags? mode (c :: seen) s
    else none

/-- Opens a named group behind the bracket before its name. -/
def namedGroup? (p : Progress) (s : List Char) : Option Progress :=
  let name := s.takeWhile (· != '>')
  match s.dropWhile (· != '>') with
  | [] => none
  | _ :: rest =>
    if isGroupName name && !p.names.contains name then
      some { p with rest, names := name :: p.names }
    else none

/-- Reads what a parenthesis opens: a group, or mere flags for all that follows. -/
def group? (p : Progress) (s : List Char) : Option (Bool × Progress) :=
  match p.mode.skip s with
  | '?' :: 'P' :: '<' :: s => (namedGroup? p s).map (true, ·)
  | '?' :: '<' :: s => (namedGroup? p s).map (true, ·)
  | '?' :: s =>
    match flags? p.mode [] s with
    | some (mode, ':' :: rest) => some (true, { p with rest, mode })
    | some (mode, _ :: rest) => some (false, { p with rest, mode })
    | _ => none
  | rest => some (true, { p with rest })

/-- The progress behind an atom, if it can stand there. -/
def take? (p : Progress) (atom : Atom) (rest : List Char) : Option Progress :=
  if atom.isAllowed p.mode then
    some { p with rest, edges := p.edges || (atom == .wordEdge && p.mode.unicode) }
  else none

/-- Reads alternatives up to a closing parenthesis or the end, and gives their depth. `branches` are
the depths of the alternatives before, `parts` those of the parts of the current one, the last one
first; a part without a depth is a change of mode, which cannot be repeated. The fuel bounds the
steps. -/
def alternatives? :
    Nat → List Nat → List (Option Nat) → Progress → Option (Nat × Progress)
  | 0, _, _, _ => none
  | fuel + 1, branches, parts, p =>
    let branch := together (parts.map (·.getD 0))
    let onward (depth : Option Nat) (p : Progress) := alternatives? fuel branches (depth :: parts) p
    match p.mode.skip p.rest with
    | [] => some (together (branch :: branches), { p with rest := [] })
    | ')' :: rest => some (together (branch :: branches), { p with rest := ')' :: rest })
    | '|' :: rest => alternatives? fuel (branch :: branches) [] { p with rest }
    | '(' :: rest => do
      match ← group? p rest with
      | (false, p) => onward none p
      | (true, inside) =>
        let (depth, inside) ← alternatives? fuel [] [] inside
        match inside.rest with
        | [] => none
        | _ :: rest => onward (some (depth + 1)) { inside with rest, mode := p.mode }
    | '[' :: rest => do
      let (extent, rest) ← charClass? p.mode rest
      onward (some extent.depth) { p with rest }
    | '\x7b' :: _ => none
    | '\\' :: rest => do
      let (atom, rest) ← escape? p.mode rest
      onward (some 0) (← take? p atom rest)
    | '^' :: rest | '$' :: rest => onward (some 0) { p with rest }
    | '.' :: rest => if p.mode.unicode then onward (some 0) { p with rest } else none
    | c :: rest =>
      if c == '*' || c == '+' || c == '?' then
        match parts with
        | some depth :: parts =>
          let rest := match rest with
            | '?' :: rest => rest
            | rest => rest
          alternatives? fuel branches (some (depth + 1) :: parts) { p with rest }
        | _ => none
      else onward (some 0) { p with rest }

/-- What is wrong with a pattern, if anything is. -/
def fault? (s : List Char) : Option Fault :=
  match alternatives? (s.length + 1) [] [] { rest := s } with
  | some (depth, p) =>
    if !p.rest.isEmpty || nestingLimit < depth then some .malformed
    else if p.edges then some .wordEdges
    else none
  | none => some .malformed

/-- The empty pattern is one. -/
theorem fault?_nil : fault? [] = none := rfl

end Responsive.Logging.Pattern

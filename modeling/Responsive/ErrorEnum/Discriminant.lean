import Responsive.ErrorEnum.Angle

/-!
# Discriminants

A variant may have a number, given by an expression behind an equals sign. The expression ends at
the first comma that is not its own. In an expression a less-than sign is a bracket only where an
operand begins, behind two colons, and in the type behind `as`, and a bar that begins an operand
opens the parameters of a closure.
-/

set_option autoImplicit false
set_option relaxedAutoImplicit false

namespace Responsive.ErrorEnum

/-- What comes next in an expression. -/
inductive Position
  | operand
  /-- An operator, or a continuation of the operand. -/
  | operator
  /-- The beginning of a type. -/
  | type
  /-- A continuation of a type that is a path. -/
  | path
deriving DecidableEq, Repr

/-- The words behind which an operand follows. -/
def operandWords : List String :=
  ["return", "break", "if", "else", "match", "while", "for", "in", "let", "mut", "ref", "move",
    "unsafe", "async", "const", "static", "loop", "box"]

/-- What comes next behind a word that stands where an operand or an operator may stand. -/
def behindWord (w : String) : Position :=
  if operandWords.contains w then .operand else if w == "as" then .type else .operator

/-- The tokens up to and including the closing bracket or bar, and the rest. -/
def enclosed (opening : Token) (rest : List Token) : List Token × List Token :=
  match opening with
  | .punct "<" =>
    match angle? 0 rest with
    | some (inner, behind) => (opening :: inner ++ [.punct ">"], behind)
    | none => ([opening], rest)
  | _ =>
    let isBar : Token → Bool := fun | .punct "|" => true | _ => false
    (opening :: rest.takeWhile (!isBar ·) ++ (rest.dropWhile (!isBar ·)).take 1,
      (rest.dropWhile (!isBar ·)).drop 1)

/-- The first part of an expression at a position, what comes next behind it, and the rest; `none`
where the expression ends. -/
def advance? (position : Position) (tokens : List Token) :
    Option (List Token × Position × List Token) :=
  let bracketed (opening : Token) (next : Position) (rest : List Token) :=
    let (front, behind) := enclosed opening rest
    some (front, next, behind)
  match position, tokens with
  | _, [] => none
  | _, .punct "," :: _ => none
  | .operand, .punct "<" :: rest => bracketed (.punct "<") .operator rest
  | .operand, .punct "|" :: rest => bracketed (.punct "|") .operand rest
  | .operand, .punct p :: rest => some ([.punct p], .operand, rest)
  | .type, .punct "<" :: rest => bracketed (.punct "<") .path rest
  | .type, .punct p :: rest => some ([.punct p], .type, rest)
  | .type, .lifetime name :: rest => some ([.lifetime name], .type, rest)
  | .type, .word w :: rest =>
    some ([.word w], if ["mut", "const", "dyn", "impl"].contains w then .type else .path, rest)
  | .path, .punct "<" :: rest => bracketed (.punct "<") .path rest
  | .path, .punct ":" :: .punct ":" :: rest => some ([.punct ":", .punct ":"], .type, rest)
  | .path, .punct "->" :: rest => some ([.punct "->"], .type, rest)
  | .path, .group .paren inner :: rest => some ([.group .paren inner], .path, rest)
  | _, .punct ":" :: .punct ":" :: .punct "<" :: rest =>
    let (front, behind) := enclosed (.punct "<") rest
    some (.punct ":" :: .punct ":" :: front, .operator, behind)
  | _, .punct "?" :: rest => some ([.punct "?"], .operator, rest)
  | _, .punct "!" :: .group d inner :: rest =>
    some ([.punct "!", .group d inner], .operator, rest)
  | _, .punct "<" :: .punct "<" :: rest => some ([.punct "<", .punct "<"], .operand, rest)
  | _, .punct p :: rest => some ([.punct p], .operand, rest)
  | _, .word w :: rest => some ([.word w], behindWord w, rest)
  | _, t :: rest => some ([t], .operator, rest)

/-- Cuts tokens where the expression that they begin with ends. The fuel bounds the steps. -/
def cutFrom : Nat → Position → List Token → List Token × List Token
  | 0, _, tokens => ([], tokens)
  | fuel + 1, position, tokens =>
    match advance? position tokens with
    | none => ([], tokens)
    | some (front, next, rest) =>
      let (more, behind) := cutFrom fuel next rest
      (front ++ more, behind)

/-- Cuts tokens where the expression that they begin with ends. -/
def cutExpression (tokens : List Token) : List Token × List Token :=
  cutFrom (tokens.length + 1) .operand tokens

end Responsive.ErrorEnum

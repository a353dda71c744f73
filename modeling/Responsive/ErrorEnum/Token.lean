import Responsive.Text.Blank
import Responsive.Text.Identifier
import Responsive.Text.Quoted
import Responsive.Text.Utf8

/-!
# Tokens of Rust source

Source text as words, lifetimes, literals, single punctuation characters, and groups in brackets.
Comments are dropped, except that a documentation comment is the attribute that it stands for. The
two arrows are single tokens, so that an angle bracket is always a bracket.
-/

set_option autoImplicit false
set_option relaxedAutoImplicit false

namespace Responsive.ErrorEnum

open Text

/-- The kinds of brackets around a group. -/
inductive Delimiter
  | paren
  | bracket
  | brace
deriving DecidableEq, Repr

/-- A token. -/
inductive Token
  | word (s : String)
  | lifetime (name : String)
  | literal (s : String)
  | punct (s : String)
  | group (delimiter : Delimiter) (inner : List Token)
deriving Repr, Inhabited

/-- A token of a text whose brackets have not been matched yet. -/
inductive Lexeme
  | token (t : Token)
  | opening (d : Delimiter)
  | closing (d : Delimiter)
deriving Repr

namespace Delimiter

/-- The opening bracket. -/
def opening : Delimiter → String
  | paren => "("
  | bracket => "["
  | brace => "\x7b"

/-- The closing bracket. -/
def closing : Delimiter → String
  | paren => ")"
  | bracket => "]"
  | brace => "\x7d"

end Delimiter

mutual

/-- The text of a token. -/
def Token.text : Token → String
  | .word s => s
  | .lifetime name => "'" ++ name
  | .literal s => s
  | .punct s => s
  | .group d inner => d.opening ++ Token.texts inner ++ d.closing

/-- The texts of tokens, with spaces between them. -/
def Token.texts : List Token → String
  | [] => ""
  | t :: rest => t.text ++ " " ++ Token.texts rest

end

/-! ### Lexing -/

/-- A character between tokens: a blank, or a mark for the direction of writing. -/
def isGap (c : Char) : Bool :=
  isBlank c || c.toNat = 0x200E || c.toNat = 0x200F

/-- A character that may begin a word. -/
def startsWord (c : Char) : Bool :=
  c == '_' || isNameStart c

/-- A character inside a word. -/
def insideWord (c : Char) : Bool :=
  isNameContinue c

/-- Reads up to and including a closing quote; a backslash takes the next character along. -/
def quoted? (quote : Char) : List Char → Option (List Char × List Char)
  | [] => none
  | '\\' :: c :: s => (quoted? quote s).map fun found ↦ ('\\' :: c :: found.1, found.2)
  | c :: s =>
    if c == quote then some ([c], s)
    else (quoted? quote s).map fun found ↦ (c :: found.1, found.2)

/-- Reads a raw string up to and including its end: a quote with so many hashes. -/
def raw? (hashes : List Char) : List Char → Option (List Char × List Char)
  | [] => none
  | c :: s =>
    if c == '"' && hashes.isPrefixOf s then some (c :: hashes, s.drop hashes.length)
    else (raw? hashes s).map fun found ↦ (c :: found.1, found.2)

/-- Reads the inside of a block comment behind its start; `depth` comments are still open inside. -/
def comment? : Nat → List Char → Option (List Char × List Char)
  | _, [] => none
  | depth, '/' :: '*' :: s =>
    (comment? (depth + 1) s).map fun found ↦ ('/' :: '*' :: found.1, found.2)
  | 0, '*' :: '/' :: s => some ([], s)
  | depth + 1, '*' :: '/' :: s =>
    (comment? depth s).map fun found ↦ ('*' :: '/' :: found.1, found.2)
  | depth, c :: s => (comment? depth s).map fun found ↦ (c :: found.1, found.2)

/-- The inside of a string literal for a text. Before an octal digit, the character of code zero is
written in hexadecimal. -/
def literalChars : List Char → List Char
  | [] => []
  | '\x00' :: c :: s =>
    if '0' ≤ c && c ≤ '7' then '\\' :: 'x' :: '0' :: '0' :: literalChars (c :: s)
    else quotedChar '\x00' ++ literalChars (c :: s)
  | c :: s => quotedChar c ++ literalChars s

/-- The attribute, behind its hash, that a documentation comment stands for. -/
def docGroup (comment : List Char) : Lexeme :=
  .token (.group .bracket
    [.word "doc", .punct "=", .literal (.ofList ('"' :: literalChars comment ++ ['"']))])

/-- The attribute that a documentation comment stands for. -/
def docAttribute (comment : List Char) : List Lexeme :=
  [.token (.punct "#"), docGroup comment]

/-- The attribute that a comment documenting what it stands in is read as. -/
def innerDocAttribute (comment : List Char) : List Lexeme :=
  [.token (.punct "#"), .token (.punct "!"), docGroup comment]

/-- A line without the carriage return at its end. -/
def withoutReturn (line : List Char) : List Char :=
  if line.getLast? == some '\r' then line.dropLast else line

/-- Reads a literal in quotes, with what stands before the quotes, off the front of a text. -/
def literal? (s : List Char) : Option (List Char × List Char) :=
  let lead := s.takeWhile fun c ↦ c == 'b' || c == 'c' || c == 'r'
  let rest := s.drop lead.length
  let hashes := rest.takeWhile (· == '#')
  let spelled (opening : List Char) (found : Option (List Char × List Char)) :=
    found.map fun f ↦ (opening ++ f.1, f.2)
  if 2 < lead.length then none
  else if lead.getLast? == some 'r' then
    match rest.drop hashes.length with
    | '"' :: s => spelled (lead ++ hashes ++ ['"']) (raw? hashes s)
    | _ => none
  else
    match rest with
    | '"' :: s => spelled (lead ++ ['"']) (quoted? '"' s)
    | '\'' :: s => if lead == ['b'] then spelled ['b', '\''] (quoted? '\'' s) else none
    | _ => none

/-- Reads a character literal or a lifetime behind its quote. -/
def afterTick (s : List Char) : Option (Token × List Char) :=
  match s with
  | '\\' :: _ => (quoted? '\'' s).map fun found ↦ (.literal (.ofList ('\'' :: found.1)), found.2)
  | c :: '\'' :: rest => some (.literal (.ofList ['\'', c, '\'']), rest)
  | 'r' :: '#' :: s =>
    match s.takeWhile insideWord with
    | [] => none
    | name => some (.lifetime (.ofList ('r' :: '#' :: name)), s.dropWhile insideWord)
  | s =>
    match s.takeWhile insideWord with
    | [] => none
    | name => some (.lifetime (.ofList name), s.dropWhile insideWord)

/-- Reads a word, which may be marked as raw. -/
def word (s : List Char) : Token × List Char :=
  match s with
  | 'r' :: '#' :: c :: rest =>
    if startsWord c then
      (.word (.ofList ('r' :: '#' :: (c :: rest).takeWhile insideWord)),
        (c :: rest).dropWhile insideWord)
    else (.word "r", '#' :: c :: rest)
  | s => (.word (.ofList (s.takeWhile insideWord)), s.dropWhile insideWord)

/-- Reads the first lexemes of a text that does not begin with a blank; there are none in a plain
comment, and several in a documentation comment. -/
def first? (s : List Char) : Option (List Lexeme × List Char) :=
  let line := withoutReturn (s.takeWhile (· != '\n'))
  let below := s.dropWhile (· != '\n')
  match s with
  | '/' :: '/' :: '/' :: '/' :: _ => some ([], below)
  | '/' :: '/' :: '/' :: _ => some (docAttribute (line.drop 3), below)
  | '/' :: '/' :: '!' :: _ => some (innerDocAttribute (line.drop 3), below)
  | '/' :: '/' :: _ => some ([], below)
  | '/' :: '*' :: '*' :: '/' :: s => some ([], s)
  | '/' :: '*' :: '*' :: '*' :: s => (comment? 0 ('*' :: '*' :: s)).map fun found ↦ ([], found.2)
  | '/' :: '*' :: '*' :: s => (comment? 0 s).map fun found ↦ (docAttribute found.1, found.2)
  | '/' :: '*' :: '!' :: s =>
    (comment? 0 s).map fun found ↦ (innerDocAttribute found.1, found.2)
  | '/' :: '*' :: s => (comment? 0 s).map fun found ↦ ([], found.2)
  | '(' :: s => some ([.opening .paren], s)
  | ')' :: s => some ([.closing .paren], s)
  | '[' :: s => some ([.opening .bracket], s)
  | ']' :: s => some ([.closing .bracket], s)
  | '\x7b' :: s => some ([.opening .brace], s)
  | '\x7d' :: s => some ([.closing .brace], s)
  | '-' :: '>' :: s => some ([.token (.punct "->")], s)
  | '=' :: '>' :: s => some ([.token (.punct "=>")], s)
  | '\'' :: s => (afterTick s).map fun found ↦ ([.token found.1], found.2)
  | s =>
    match literal? s with
    | some (chars, rest) => some ([.token (.literal (.ofList chars))], rest)
    | none =>
      match s with
      | [] => none
      | c :: rest =>
        if startsWord c then
          let (t, rest) := word (c :: rest)
          some ([.token t], rest)
        else if c.isDigit then
          some ([.token (.literal (.ofList ((c :: rest).takeWhile insideWord)))],
            (c :: rest).dropWhile insideWord)
        else some ([.token (.punct (.singleton c))], rest)

/-- Reads all lexemes of a text; the fuel bounds their number. -/
def lexemes? : Nat → List Char → Option (List Lexeme)
  | 0, _ => none
  | fuel + 1, s => do
    match s.dropWhile isGap with
    | [] => some []
    | s => do
      let (found, rest) ← first? s
      (lexemes? fuel rest).map (found ++ ·)

/-- Matches brackets. Tokens are collected in reverse, the innermost open group first. -/
def build? : List (Delimiter × List Token) → List Token → List Lexeme → Option (List Token)
  | [], done, [] => some done.reverse
  | _ :: _, _, [] => none
  | stack, done, .token t :: rest => build? stack (t :: done) rest
  | stack, done, .opening d :: rest => build? ((d, done) :: stack) [] rest
  | [], _, .closing _ :: _ => none
  | (d, outer) :: stack, done, .closing e :: rest =>
    if d = e then build? stack (.group d done.reverse :: outer) rest else none

/-- Reads the tokens of a text, at whose front a byte order mark may stand. -/
def tokens? (s : String) : Option (List Token) := do
  build? [] [] (← lexemes? (s.length + 1) (withoutMark s.toList))

end Responsive.ErrorEnum

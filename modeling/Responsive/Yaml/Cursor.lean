/-!
# Reading YAML

The tokens of YAML and the state of their reader. Blocks are marked by their indentation alone, so
the reader keeps the columns of the open blocks and puts out tokens where they begin and end. What
turns out to be a key only at the colon behind it gets its token afterwards, at the number that was
kept for it.
-/

set_option autoImplicit false
set_option relaxedAutoImplicit false

namespace Responsive.Yaml

/-- A token. -/
inductive Token
  | version
  /-- A handle for tags, and what it stands for. -/
  | handle (name lead : String)
  | documentStart
  | documentEnd
  | blockSequence
  | blockMapping
  | blockEnd
  | flowSequence
  | flowSequenceEnd
  | flowMapping
  | flowMappingEnd
  | blockEntry
  | flowEntry
  | key
  | value
  | alias (name : String)
  | anchor (name : String)
  | tag (handle suffix : String)
  /-- A text; only a plain one can be anything but a text. -/
  | scalar (plain : Bool) (text : String)
deriving DecidableEq, Repr, Inhabited

/-! ### Characters -/

/-- What is read at the end. -/
def endMark : Char := '\x00'

/-- A line break. -/
def isBreak (c : Char) : Bool :=
  c == '\n' || c == '\r'

/-- A blank inside a line. -/
def isSpace (c : Char) : Bool :=
  c == ' ' || c == '\t'

/-- The end of a line. -/
def isLineEnd (c : Char) : Bool :=
  c == endMark || isBreak c

/-- A blank or the end of a line. -/
def isGap (c : Char) : Bool :=
  isSpace c || isLineEnd c

/-- A character that structures collections in brackets. -/
def isFlow (c : Char) : Bool :=
  c == ',' || c == '[' || c == ']' || c == '\x7b' || c == '\x7d'

/-- A character of words. -/
def isWordChar (c : Char) : Bool :=
  c.isAlphanum || c == '_' || c == '-'

/-! ### The state -/

/-- What may turn out to be a key. -/
structure KeyMark where
  possible : Bool := false
  /-- Nothing but a key can stand at its place. -/
  required : Bool := false
  /-- The number of the token that the key begins with. -/
  number : Nat := 0
  index : Nat := 0
  line : Nat := 0
  col : Nat := 0
deriving Repr, Inhabited

/-- The indentation around a block, and whether a token ends the block. -/
structure Indent where
  outer : Int
  closes : Bool
deriving Repr

/-- The state of the reader. -/
structure Cursor where
  rest : List Char
  index : Nat := 0
  line : Nat := 0
  col : Nat := 0
  /-- The tokens so far, the last one first, each with its column. -/
  found : List (Token × Nat) := []
  keyAllowed : Bool := true
  /-- For every open bracket, the innermost first, and for the blocks around them. -/
  keys : List KeyMark := [{}]
  indent : Int := -1
  indents : List Indent := []
  /-- The open brackets, the innermost first, with the token that each has made. -/
  brackets : List Token := []
  /-- The place at which a value needs no blank behind its colon. -/
  adjacentAt : Option Nat := none
  /-- Nothing but blanks has been read of the line. -/
  leading : Bool := true
deriving Repr

namespace Cursor

/-- The next character. -/
def ch (s : Cursor) : Char :=
  s.rest.headD endMark

/-- The character behind the next one. -/
def second (s : Cursor) : Char :=
  (s.rest.drop 1).headD endMark

/-- Whether the reader is inside brackets. -/
def inFlow (s : Cursor) : Bool :=
  !s.brackets.isEmpty

/-- The state behind so many blanks. -/
def skipBlanks (s : Cursor) (n : Nat) : Cursor :=
  { s with rest := s.rest.drop n, index := s.index + n, col := s.col + n }

/-- The state behind so many characters, which are no breaks. -/
def skip (s : Cursor) (n : Nat) : Cursor :=
  { s.skipBlanks n with leading := false }

/-- The state behind a line break. -/
def skipBreak (s : Cursor) : Cursor :=
  let behind (n : Nat) (rest : List Char) : Cursor :=
    { s with rest, index := s.index + n, line := s.line + 1, col := 0, leading := true }
  match s.rest with
  | '\r' :: '\n' :: rest => behind 2 rest
  | c :: rest => if isBreak c then behind 1 rest else s
  | [] => s

/-- The state at the end of the line. -/
def skipComment (s : Cursor) : Cursor :=
  s.skip (s.rest.takeWhile (!isLineEnd ·)).length

/-- The state behind blanks and a comment, and whether there were tabs and spaces among them. A
comment needs a blank before it. -/
def lineEndFrom (tabs : Bool) : Nat → Bool → Bool → Cursor → Option (Cursor × Bool × Bool)
  | 0, _, _, _ => none
  | fuel + 1, tab, space, s =>
    if s.ch == ' ' then lineEndFrom tabs fuel tab true (s.skipBlanks 1)
    else if s.ch == '\t' && tabs then lineEndFrom tabs fuel true space (s.skipBlanks 1)
    else if s.ch == '#' then
      if tab || space then some (s.skipComment, tab, space) else none
    else some (s, tab, space)

/-- The state behind blanks and a comment, and whether there were tabs and spaces among them. -/
def lineEnd? (s : Cursor) (tabs : Bool) : Option (Cursor × Bool × Bool) :=
  lineEndFrom tabs (s.rest.length + 1) false false s

/-- The state behind blanks, tabs among them, and a comment. -/
def pastBlanks? (s : Cursor) : Option Cursor :=
  (s.lineEnd? true).map (·.1)

/-- Puts out a token. -/
def push (s : Cursor) (t : Token) (col : Nat) : Cursor :=
  { s with found := (t, col) :: s.found }

/-- Puts out a token before the one of that number. -/
def insert (s : Cursor) (number : Nat) (t : Token) (col : Nat) : Cursor :=
  let (later, earlier) := s.found.splitAt (s.found.length - number)
  { s with found := later ++ (t, col) :: earlier }

/-- Whether the line begins with that mark for documents. -/
def isAtMark (s : Cursor) (c : Char) : Bool :=
  s.col == 0 && (s.rest.take 3) == [c, c, c] && isGap ((s.rest.drop 3).headD endMark)

/-- Whether the line begins with a mark for documents. -/
def isAtDocumentMark (s : Cursor) : Bool :=
  s.isAtMark '-' || s.isAtMark '.'

/-! ### Indentation -/

/-- Ends the blocks that are indented by more than a column. -/
def unrollFrom (col : Int) : List Indent → Cursor → Cursor
  | [], s => s
  | top :: rest, s =>
    if s.indent ≤ col then s
    else
      let s := { s with indent := top.outer, indents := rest }
      unrollFrom col rest (if top.closes then s.push .blockEnd s.col else s)

/-- Ends the blocks that are indented by more than a column, outside of brackets. -/
def unroll (s : Cursor) (col : Int) : Cursor :=
  if s.inFlow then s else unrollFrom col s.indents s

/-- Drops the innermost indentations that belong to no block. -/
def dropLoose : List Indent → Cursor → Cursor
  | [], s => s
  | top :: rest, s =>
    if top.closes then s else dropLoose rest { s with indent := top.outer, indents := rest }

/-- Asks for one more column, without a block. -/
def indentLoosely (s : Cursor) : Cursor :=
  if !s.inFlow && s.indents.head?.any (·.closes) then
    { s with indents := ⟨s.indent, false⟩ :: s.indents, indent := s.indent + 1 }
  else s

/-- Begins a block at a column if it is indented by more than the current one. Its token goes before
the one of a number, or to the end. -/
def roll (s : Cursor) (col : Nat) (number : Option Nat) (t : Token) : Cursor :=
  if s.inFlow then s
  else
    let s := match s.indents with
      | top :: rest =>
        if s.indent ≤ (col : Int) && !top.closes then
          { s with indent := top.outer, indents := rest }
        else s
      | [] => s
    if s.indent < (col : Int) then
      let s := { s with indents := ⟨s.indent, true⟩ :: s.indents, indent := col }
      match number with
      | some number => s.insert number t col
      | none => s.push t col
    else s

/-! ### Keys -/

/-- The mark of the innermost key. -/
def keyMark (s : Cursor) : KeyMark :=
  s.keys.headD {}

/-- Puts another mark in the place of the innermost one. -/
def withKeyMark (s : Cursor) (mark : KeyMark) : Cursor :=
  { s with keys := mark :: s.keys.drop 1 }

/-- Keeps in mind that a key may begin here. -/
def saveKey (s : Cursor) : Cursor :=
  if s.keyAllowed then
    s.withKeyMark
      { possible := true
        required := !s.inFlow && s.indent == (s.col : Int) && s.indents.head?.any (·.closes)
        number := s.found.length
        index := s.index, line := s.line, col := s.col }
  else s

/-- Gives the innermost key up. -/
def removeKey? (s : Cursor) : Option Cursor :=
  let mark := s.keyMark
  if mark.possible && mark.required then none
  else some (s.withKeyMark { mark with possible := false })

/-- How many characters a key outside of brackets may have. -/
def maxKeyLength : Nat := 1024

/-- Whether a key is too far away for its colon. -/
def isStale (s : Cursor) (mark : KeyMark) : Bool :=
  mark.possible && !s.inFlow && (mark.line < s.line || mark.index + maxKeyLength < s.index)

/-- Gives up the keys that are too far away for their colons. -/
def dropStaleKeys? (s : Cursor) : Option Cursor :=
  if s.keys.any fun mark ↦ s.isStale mark && mark.required then none
  else
    some { s with
      keys := s.keys.map fun mark ↦
        if s.isStale mark then { mark with possible := false } else mark }

end Cursor

end Responsive.Yaml

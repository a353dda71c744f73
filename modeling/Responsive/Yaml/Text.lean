import Responsive.Json.Outline
import Responsive.Yaml.Cursor

/-!
# Texts of YAML

Plain texts, texts in quotes and texts in blocks. A line break inside a plain or quoted text counts
as a space, and of several breaks the first one does not count. A block keeps its breaks, or folds
those between two lines that are not indented further.
-/

set_option autoImplicit false
set_option relaxedAutoImplicit false

namespace Responsive.Yaml

open Cursor

/-- The line breaks and blanks since the last visible character. -/
structure Pending where
  /-- Whether the line has ended. -/
  broken : Bool := false
  /-- How many more lines have ended. -/
  breaks : Nat := 0
  /-- The blanks on the line, the last one first. -/
  spaces : List Char := []

namespace Pending

/-- What stands for line breaks: a space for a single one. -/
def folded (p : Pending) : List Char :=
  if p.broken && p.breaks = 0 then [' '] else List.replicate p.breaks '\n'

end Pending

/-! ### Plain texts -/

/-- Whether the next character goes on with a plain text. -/
def continuesPlain (inFlow : Bool) (c next : Char) : Bool :=
  if c == ':' && (isGap next || (inFlow && isFlow next)) then false else !(inFlow && isFlow c)

/-- The visible characters at the front of a plain text. -/
def plainRun (inFlow : Bool) : List Char → List Char
  | [] => []
  | c :: s =>
    if isGap c || !continuesPlain inFlow c (s.headD endMark) then [] else c :: plainRun inFlow s

/-- The state behind blanks and breaks in a plain text. Tabs must not indent visible characters. -/
def plainGap? (indent : Int) : Nat → Pending → Cursor → Option (Pending × Cursor)
  | 0, _, _ => none
  | fuel + 1, p, s =>
    if isSpace s.ch then
      if !s.leading then
        plainGap? indent fuel { p with spaces := s.ch :: p.spaces } (s.skipBlanks 1)
      else if s.col < indent && s.ch == '\t' then do
        let s ← s.pastBlanks?
        if isLineEnd s.ch then plainGap? indent fuel p s else none
      else plainGap? indent fuel p (s.skipBlanks 1)
    else if isBreak s.ch then
      let p := if s.leading then { p with breaks := p.breaks + 1 }
        else { p with broken := true, spaces := [] }
      plainGap? indent fuel p s.skipBreak
    else some (p, s)

/-- Reads a plain text; `done` is what has been read of it, the last character first. -/
def plainFrom? (indent : Int) : Nat → List Char → Pending → Cursor → Option (List Char × Cursor)
  | 0, _, _, _ => none
  | fuel + 1, done, p, s =>
    if s.isAtDocumentMark || s.ch == '#' then some (done, s)
    else if s.inFlow && s.ch == '-' && isFlow s.second then none
    else
      let run := plainRun s.inFlow s.rest
      let (done, p, s) :=
        if run.isEmpty then (done, p, s)
        else
          let gap := if s.leading then p.folded else p.spaces
          (run.reverse ++ gap ++ done, {}, s.skip run.length)
      if isSpace s.ch || isBreak s.ch then do
        let (p, s) ← plainGap? indent (s.rest.length + 1) p s
        if !s.inFlow && s.col < indent then some (done, s) else plainFrom? indent fuel done p s
      else some (done, s)

/-- Reads a plain text. -/
def plain? (s : Cursor) : Option Cursor := do
  let s := { s.saveKey with keyAllowed := false }
  let s := dropLoose s.indents s
  let indent := s.indent + 1
  if s.inFlow && s.col < indent then none
  let (done, behind) ← plainFrom? indent (s.rest.length + 1) [] {} s
  let behind := if behind.leading then { behind with keyAllowed := true } else behind
  some (behind.push (.scalar true (.ofList done.reverse)) s.col)

/-! ### Texts in quotes -/

/-- The character that a one-letter escape stands for. -/
def escape? (c : Char) : Option Char :=
  match c with
  | '0' => some '\x00'
  | 'a' => some '\x07'
  | 'b' => some '\x08'
  | 't' | '\t' => some '\t'
  | 'n' => some '\n'
  | 'v' => some '\x0b'
  | 'f' => some '\x0c'
  | 'r' => some '\r'
  | 'e' => some '\x1b'
  | ' ' | '"' | '/' | '\\' => some c
  | 'N' => some (Char.ofNat 0x85)
  | '_' => some (Char.ofNat 0xA0)
  | 'L' => some (Char.ofNat 0x2028)
  | 'P' => some (Char.ofNat 0x2029)
  | _ => none

/-- The number of digits behind the letter of an escape. -/
def escapeLength (c : Char) : Nat :=
  match c with
  | 'x' => 2
  | 'u' => 4
  | 'U' => 8
  | _ => 0

/-- The value of hexadecimal digits. -/
def hexValueOf? (digits : List Char) : Option Nat :=
  digits.foldl (fun n c ↦ do return 16 * (← n) + (← Json.hexValue? c)) (some 0)

/-- The character of an escape with digits. -/
def escapeCode? (digits : List Char) (length : Nat) : Option Char := do
  let n ← hexValueOf? digits
  if digits.length = length ∧ n.isValidChar then some (Char.ofNat n) else none

/-- Reads the visible characters of a quoted text; also tells whether a break follows that is
escaped. -/
def quotedRun? (quote : Char) : Nat → List Char → Cursor → Option (List Char × Bool × Cursor)
  | 0, _, _ => none
  | fuel + 1, done, s =>
    if isGap s.ch then some (done, false, s)
    else if s.ch == quote then
      if quote == '\'' && s.second == quote then quotedRun? quote fuel (quote :: done) (s.skip 2)
      else some (done, false, s)
    else if s.ch == '\\' && quote == '"' then
      if isBreak s.second then some (done, true, (s.skip 1).skipBreak)
      else
        let length := escapeLength s.second
        let digits := (s.rest.drop 2).take length
        let c := if length = 0 then escape? s.second else escapeCode? digits length
        c.bind fun c ↦ quotedRun? quote fuel (c :: done) (s.skip (2 + length))
    else quotedRun? quote fuel (s.ch :: done) (s.skip 1)

/-- The state behind blanks and breaks in a quoted text. -/
def quotedGap? : Nat → Bool → Pending → Cursor → Option (Bool × Pending × Cursor)
  | 0, _, _, _ => none
  | fuel + 1, leading, p, s =>
    if isSpace s.ch then
      if leading then
        if s.ch == '\t' && s.col < s.indent then none
        else quotedGap? fuel leading p (s.skipBlanks 1)
      else quotedGap? fuel leading { p with spaces := s.ch :: p.spaces } (s.skipBlanks 1)
    else if isBreak s.ch then
      let p := if leading then { p with breaks := p.breaks + 1 }
        else { p with broken := true, spaces := [] }
      quotedGap? fuel true p s.skipBreak
    else some (leading, p, s)

/-- Reads a quoted text behind its quote up to the closing one. -/
def quotedFrom? (quote : Char) : Nat → List Char → Cursor → Option (List Char × Cursor)
  | 0, _, _ => none
  | fuel + 1, done, s =>
    if s.isAtDocumentMark || s.ch == endMark || s.col < s.indent then none
    else do
      let (done, escaped, s) ← quotedRun? quote (s.rest.length + 1) done s
      if s.ch == quote then return (done, s.skip 1)
      let (leading, p, s) ← quotedGap? (s.rest.length + 1) escaped {} s
      quotedFrom? quote fuel ((if leading then p.folded else p.spaces) ++ done) s

/-- Whether a quoted text may end here: before the end of the line, or the colon of a key, or what
goes on in brackets. -/
def endsQuoted (line : Nat) (s : Cursor) : Bool :=
  if s.inFlow then [',', '\x7d', ']', ':'].contains s.ch || isLineEnd s.ch
  else isLineEnd s.ch || (s.ch == ':' && line == s.line)

/-! ### Texts in blocks -/

/-- What becomes of the line breaks at the end of a block. -/
inductive Chomping
  | clip
  | strip
  | keep
deriving DecidableEq

/-- The sign for what becomes of the last line breaks, if there is one. -/
def chomping? (c : Char) : Option Chomping :=
  if c == '+' then some .keep else if c == '-' then some .strip else none

/-- A digit for the indentation. -/
def indentDigit? (c : Char) : Option Nat :=
  if c.isDigit then some (c.toNat - 48) else none

/-- Reads the signs behind the mark of a block. -/
def blockSigns? (s : Cursor) : Option (Chomping × Nat × Cursor) := do
  let (chomping, increment, s) :=
    match chomping? s.ch, indentDigit? s.ch with
    | some chomping, _ =>
      match indentDigit? s.second with
      | some n => (chomping, some n, s.skip 2)
      | none => (chomping, none, s.skip 1)
    | none, some n =>
      match chomping? s.second with
      | some chomping => (chomping, some n, s.skip 2)
      | none => (Chomping.clip, some n, s.skip 1)
    | none, none => (Chomping.clip, none, s)
  if increment == some 0 then none else some (chomping, increment.getD 0, s)

/-- Skips spaces, at most up to a column, and empty lines, whose number is added up. -/
def blockGap (limit : Option Nat) : Nat → Nat → Nat → Cursor → Nat × Nat × Cursor
  | 0, breaks, widest, s => (breaks, widest, s)
  | fuel + 1, breaks, widest, s =>
    let spaces := (s.rest.takeWhile (· == ' ')).length
    let s := s.skipBlanks (match limit with
      | none => spaces
      | some limit => min spaces (limit - s.col))
    let widest := max widest s.col
    if isBreak s.ch then blockGap limit fuel (breaks + 1) widest s.skipBreak
    else (breaks, widest, s)

/-- The breaks before a line of a block. -/
structure BlockGap where
  /-- Whether a line stands above. -/
  broken : Bool := false
  breaks : Nat := 0
  /-- Whether the line above begins with a blank. -/
  indented : Bool := false

/-- What stands for the breaks before a line of a block. -/
def BlockGap.text (gap : BlockGap) (literal : Bool) (c : Char) : List Char :=
  if !literal && gap.broken && !gap.indented && !isSpace c then
    if gap.breaks = 0 then [' '] else List.replicate gap.breaks '\n'
  else List.replicate (gap.breaks + if gap.broken then 1 else 0) '\n'

/-- Reads the lines of a block; `done` is what has been read, the last character first. -/
def blockLines (literal : Bool) (indent : Nat) :
    Nat → List Char → BlockGap → Cursor → List Char × BlockGap × Cursor
  | 0, done, gap, s => (done, gap, s)
  | fuel + 1, done, gap, s =>
    if s.col ≠ indent || s.ch == endMark || (indent = 0 && s.isAtDocumentMark) then (done, gap, s)
    else
      let line := s.rest.takeWhile (!isLineEnd ·)
      let indented := isSpace s.ch
      let done := line.reverse ++ gap.text literal s.ch ++ done
      let s := s.skip line.length
      if s.ch == endMark then (done, { indented }, s)
      else
        let s := s.skipBreak
        let (breaks, _, s) := blockGap (some indent) (s.rest.length + 1) 0 0 s
        blockLines literal indent fuel done { broken := true, breaks, indented } s

/-- A block without any line. -/
def emptyBlock (chomping : Chomping) (sameLine broken : Bool) (breaks : Nat) : List Char :=
  let first := if broken then ['\n'] else []
  match chomping with
  | .strip => []
  | .clip => if sameLine then [] else first
  | .keep => if sameLine then [] else if breaks = 0 then first else List.replicate breaks '\n'

/-- The line breaks at the end of a block, given where it ends. -/
def blockTail (chomping : Chomping) (indent : Nat) (gap : BlockGap) (s : Cursor) : List Char :=
  if chomping = .strip then []
  else
    (if gap.broken then ['\n'] else []) ++
      (if s.ch == endMark && max indent 1 ≤ s.col then ['\n'] else []) ++
      if chomping = .keep then List.replicate gap.breaks '\n' else []

/-- Reads the text of a block behind its mark. -/
def blockText? (literal : Bool) (start : Cursor) : Option (List Char × Cursor) := do
  let s := start.skip 1
  let s := dropLoose s.indents s
  let (chomping, increment, s) ← blockSigns? s
  let s ← s.pastBlanks?
  if !isLineEnd s.ch then none
  let broken := isBreak s.ch
  let s := s.skipBreak
  if s.ch == '\t' then none
  let base := (s.indent + 1).toNat
  let given := if increment = 0 then none
    else some (if 0 ≤ s.indent then s.indent.toNat + increment else increment)
  let (breaks, widest, s) := blockGap given (s.rest.length + 1) 0 0 s
  let indent := given.getD (max (max widest base) (if 0 < s.indent then 1 else 0))
  if s.ch == endMark then
    return (emptyBlock chomping (s.line == start.line) broken breaks, s)
  if s.col < indent && s.indent < s.col then none
  let (done, gap, s) := blockLines literal indent (s.rest.length + 1) [] { breaks } s
  return (done.reverse ++ blockTail chomping indent gap s, s)

/-- Reads a text in a block. -/
def block? (literal : Bool) (s : Cursor) : Option Cursor := do
  let s := { s.saveKey with keyAllowed := true }
  let (text, behind) ← blockText? literal s
  some (behind.push (.scalar false (.ofList text)) s.col)

end Responsive.Yaml

import Responsive.Yaml.Text

/-!
# The tokens of YAML

`tokens?` reads a text as tokens. Where a token stands decides what it means: its column opens and
closes blocks, and a sign such as `-` or `:` has its meaning only before a blank.

* `tokens?_append_endMark`: what stands behind a null character does not count.
-/

set_option autoImplicit false
set_option relaxedAutoImplicit false

namespace Responsive.Yaml

open Cursor

/-! ### Gaps -/

/-- The state at the next token. -/
def toToken? : Nat → Cursor → Option Cursor
  | 0, _ => none
  | fuel + 1, s =>
    if s.ch == '\t' && !s.indents.isEmpty && s.leading && s.col < s.indent then do
      let s ← s.pastBlanks?
      if isLineEnd s.ch then toToken? fuel s else none
    else if isSpace s.ch then toToken? fuel (s.skipBlanks 1)
    else if isBreak s.ch then
      let s := s.skipBreak
      toToken? fuel (if s.inFlow then s else { s with keyAllowed := true })
    else if s.ch == '#' then toToken? fuel s.skipComment
    else some s

/-- The state at the next token. -/
def nextToken? (s : Cursor) : Option Cursor :=
  toToken? (2 * s.rest.length + 1) s

/-- The state behind the spaces, breaks and comments that follow the sign of a key, and whether
there are any. -/
def keyGap : Nat → Bool → Cursor → Bool × Cursor
  | 0, found, s => (found, s)
  | fuel + 1, found, s =>
    if s.ch == ' ' then keyGap fuel true (s.skipBlanks 1)
    else if isBreak s.ch then
      let s := s.skipBreak
      keyGap fuel true (if s.inFlow then s else { s with keyAllowed := true })
    else if s.ch == '#' then keyGap fuel found s.skipComment
    else (found, s)

/-! ### Tags and anchors -/

/-- A character of a tag's address. -/
def isAddressChar (c : Char) : Bool :=
  (isWordChar c && c != '_') || "#;/?:@&=+$,_.!~*'()[]%".toList.contains c

/-- A character of a tag behind its handle. -/
def isTagChar (c : Char) : Bool :=
  isAddressChar c && !isFlow c && c != '!'

/-- A character of the name of an anchor. -/
def isAnchorChar (c : Char) : Bool :=
  !isGap c && !isFlow c && c != Char.ofNat 0xFEFF

/-- The number of bytes that a character has whose first byte is given. -/
def byteCount? (byte : Nat) : Option Nat :=
  if byte < 0x80 then some 1
  else if byte / 0x20 = 6 then some 2
  else if byte / 0x10 = 14 then some 3
  else if byte / 0x08 = 30 then some 4
  else none

/-- Reads so many bytes, each a percent sign and two digits. The number that they make has all their
bits. -/
def percentBytes? : Nat → Nat → Cursor → Option (Nat × Cursor)
  | 0, code, s => some (code, s)
  | n + 1, code, s =>
    match s.rest with
    | '%' :: a :: b :: _ => do
      let byte := 16 * (← Json.hexValue? a) + (← Json.hexValue? b)
      if byte / 0x40 = 2 then percentBytes? n (256 * code + byte) (s.skip 3) else none
    | _ => none

/-- Reads a character that is written with percent signs. -/
def percentChar? (s : Cursor) : Option (Char × Cursor) :=
  match s.rest with
  | '%' :: a :: b :: _ => do
    let byte := 16 * (← Json.hexValue? a) + (← Json.hexValue? b)
    let (code, s) ← percentBytes? ((← byteCount? byte) - 1) byte (s.skip 3)
    if code.isValidChar then some (Char.ofNat code, s) else none
  | _ => none

/-- Reads the characters of a class, some of which may be written with percent signs. -/
def address? (isMember : Char → Bool) : Nat → Cursor → Option (List Char × Cursor)
  | 0, _ => none
  | fuel + 1, s =>
    if s.ch == '%' then do
      let (c, s) ← percentChar? s
      let (rest, s) ← address? isMember fuel s
      some (c :: rest, s)
    else if isMember s.ch then do
      let (rest, behind) ← address? isMember fuel (s.skip 1)
      some (s.ch :: rest, behind)
    else some ([], s)

/-- Reads the characters of a class, some of which may be written with percent signs. -/
def addressOf? (isMember : Char → Bool) (s : Cursor) : Option (String × Cursor) :=
  (address? isMember (s.rest.length + 1) s).map fun (chars, s) ↦ (.ofList chars, s)

/-- Reads an exclamation mark, the word behind it and another exclamation mark if there is one. Also
tells whether there is. -/
def handle? (s : Cursor) : Option (List Char × Bool × Cursor) :=
  if s.ch == '!' then
    let word := (s.rest.drop 1).takeWhile isWordChar
    let s := s.skip (1 + word.length)
    if s.ch == '!' then some ('!' :: word ++ ['!'], true, s.skip 1)
    else some ('!' :: word, false, s)
  else none

/-- Reads a tag. -/
def tagToken? (s : Cursor) : Option (Token × Cursor) := do
  if s.second == '<' then
    let (suffix, s) ← addressOf? isAddressChar (s.skip 2)
    if s.ch == '>' then some (.tag "" suffix, s.skip 1) else none
  else
    let (handle, closed, s) ← handle? s
    let (suffix, behind) ← addressOf? isTagChar s
    if closed then
      if suffix.isEmpty then none else some (.tag (.ofList handle) suffix, behind)
    else
      let suffix := .ofList (handle.drop 1) ++ suffix
      some (if suffix.isEmpty then .tag "" "!" else .tag "!" suffix, behind)

/-- Reads a tag, behind which a gap must follow. -/
def tag? (start : Cursor) : Option Cursor := do
  let (token, s) ← tagToken? { start.saveKey with keyAllowed := false }
  if isGap s.ch || (s.inFlow && isFlow s.ch) then some (s.push token start.col) else none

/-- Reads the name of an anchor or alias behind its sign. -/
def anchor? (make : String → Token) (start : Cursor) : Option Cursor :=
  let s := { start.saveKey with keyAllowed := false }.skip 1
  match s.rest.takeWhile isAnchorChar with
  | [] => none
  | name => some ((s.skip name.length).push (make (.ofList name)) start.col)

/-! ### Documents -/

/-- Ends all blocks before a new document. -/
def closeBlocks? (s : Cursor) : Option Cursor :=
  (s.unroll (-1)).removeKey?.map fun s ↦ { s with keyAllowed := false }

/-- Reads a number of a version. -/
def versionNumber? (s : Cursor) : Option Cursor :=
  let digits := s.rest.takeWhile Char.isDigit
  if digits.isEmpty || 9 < digits.length then none else some (s.skip digits.length)

/-- Skips the blanks of a line. -/
def skipSpaces (s : Cursor) : Cursor :=
  s.skip (s.rest.takeWhile isSpace).length

/-- Reads what follows the name of a directive. A directive of an unknown name counts as one for the
empty handle. -/
def directiveToken? (name : String) (s : Cursor) : Option (Token × Cursor) := do
  if name == "YAML" then
    let s ← versionNumber? (skipSpaces s)
    if s.ch == '.' then return (.version, ← versionNumber? (s.skip 1)) else none
  else if name == "TAG" then
    let (handle, closed, s) ← handle? (skipSpaces s)
    if !closed && handle ≠ ['!'] then none
    let s := skipSpaces s
    let first := s.ch
    let (lead, s) ← addressOf? isAddressChar s
    if lead.isEmpty || isFlow first || !isGap s.ch then none
    else return (.handle (.ofList handle) lead, s)
  else return (.handle "" "", s.skipComment)

/-- Reads a directive, which fills its line. -/
def directive? (start : Cursor) : Option Cursor := do
  let s := (← closeBlocks? start).skip 1
  let name := s.rest.takeWhile isWordChar
  let s := s.skip name.length
  if name.isEmpty || !isGap s.ch then none
  let (token, s) ← directiveToken? (.ofList name) s
  let s ← s.pastBlanks?
  if isLineEnd s.ch then some (s.skipBreak.push token start.col) else none

/-- Reads a mark for documents. -/
def documentMark? (token : Token) (start : Cursor) : Option Cursor := do
  let s := ((← closeBlocks? start).skip 3).push token start.col
  if token ≠ .documentEnd then return s
  let s ← s.pastBlanks?
  if isLineEnd s.ch then some s else none

/-! ### Collections -/

/-- How deeply brackets may nest. -/
def maxBrackets : Nat := 255

/-- Reads an opening bracket. -/
def openBracket? (token : Token) (start : Cursor) : Option Cursor :=
  let s := start.saveKey.indentLoosely
  if maxBrackets ≤ s.brackets.length then none
  else
    let s := { s with brackets := token :: s.brackets, keys := {} :: s.keys, keyAllowed := true }
    ((s.skip 1).push token start.col).pastBlanks?

/-- Reads a closing bracket. -/
def closeBracket? (token : Token) (start : Cursor) : Option Cursor := do
  let s ← start.removeKey?
  let s := if s.inFlow then { s with brackets := s.brackets.drop 1, keys := s.keys.drop 1 } else s
  let s ← ({ s with keyAllowed := false }.skip 1).pastBlanks?
  let s := if s.inFlow then { s with adjacentAt := some s.index } else s
  some (s.push token start.col)

/-- Reads a comma between brackets. -/
def flowEntry? (start : Cursor) : Option Cursor := do
  let s := { ← start.removeKey? with keyAllowed := true }
  ((s.skip 1).push .flowEntry start.col).pastBlanks?

/-- Whether a token stands before the value that it describes. -/
def isProperty : Token → Bool
  | .anchor _ => true
  | .tag _ _ => true
  | _ => false

/-- Whether the last token describes what follows, and stands in the first column as the state does
although a block is open. -/
def hasStrayProperty (s : Cursor) : Bool :=
  s.col == 0 && 0 ≤ s.indent && s.found.head?.any fun (token, col) ↦ isProperty token && col == 0

/-- Reads the sign of an item in a block. -/
def blockEntry? (start : Cursor) : Option Cursor := do
  if start.inFlow || !start.keyAllowed || hasStrayProperty start then none
  let s := (start.skip 1).roll start.col none .blockSequence
  let (s, tab, _) ← s.lineEnd? true
  if tab && s.ch == '-' && isGap s.second then none
  let s := if isBreak s.ch || isFlow s.ch then s.indentLoosely else s
  some ({ ← s.removeKey? with keyAllowed := true }.push .blockEntry start.col)

/-- Reads the sign of a key. -/
def keySign? (start : Cursor) : Option Cursor := do
  if !start.inFlow && !start.keyAllowed then none
  let s ← (start.roll start.col none .blockMapping).removeKey?
  let s := { s with keyAllowed := !s.inFlow }.skip 1
  let (found, s) := keyGap (2 * s.rest.length + 1) false s
  if !found || s.ch == '\t' then none
  some (s.push .key start.col)

/-- Whether a tab alone parts the colon from a word. -/
def isTabbed (s : Cursor) : Bool :=
  s.ch == '\t' && (s.lineEnd? true).any fun (s, _, space) ↦
    !space && (s.ch == '-' || isWordChar s.ch)

/-- Reads the colon between a key and its value. Only now it turns out that there was a key. -/
def value? (start : Cursor) : Option Cursor := do
  let mark := start.keyMark
  let s := start.skip 1
  if isTabbed s then none
  if mark.possible then
    if start.brackets.head? == some .flowSequence && mark.line < start.line then none
    let s := s.insert mark.number .key mark.col
    let s := (s.roll mark.col (some mark.number) .blockMapping).indentLoosely
    let s := { s.withKeyMark { mark with possible := false } with keyAllowed := false }
    some (s.push .value start.col)
  else
    if !s.inFlow && !s.keyAllowed then none
    let s := (s.roll start.col none .blockMapping).indentLoosely
    some ({ s with keyAllowed := !s.inFlow }.push .value start.col)

/-- Reads a colon that needs no blank behind it. -/
def flowValue? (s : Cursor) : Option Cursor :=
  if s.adjacentAt ≠ some s.index && (s.second == '[' || s.second == '\x7b') then none else value? s

/-! ### Texts in quotes -/

/-- Reads a text in quotes. -/
def quoted? (quote : Char) (start : Cursor) : Option Cursor := do
  let s := { start.saveKey with keyAllowed := false }.skip 1
  let (done, s) ← quotedFrom? quote (s.rest.length + 1) [] s
  let s ← s.pastBlanks?
  if !endsQuoted start.line s then none
  let s ← nextToken? s
  some ({ s with adjacentAt := some s.index }.push (.scalar false (.ofList done.reverse)) start.col)

/-! ### All tokens -/

/-- Reads a token. -/
def token? (s : Cursor) : Option Cursor :=
  if s.col == 0 && s.ch == '%' then directive? s
  else if s.isAtMark '-' then documentMark? .documentStart s
  else if s.isAtMark '.' then documentMark? .documentEnd s
  else if s.col < s.indent then none
  else
    match s.ch with
    | '[' => openBracket? .flowSequence s
    | '\x7b' => openBracket? .flowMapping s
    | ']' => closeBracket? .flowSequenceEnd s
    | '\x7d' => closeBracket? .flowMappingEnd s
    | ',' => flowEntry? s
    | '*' => anchor? .alias s
    | '&' => anchor? .anchor s
    | '!' => tag? s
    | '\'' => quoted? '\'' s
    | '"' => quoted? '"' s
    | '-' => if isGap s.second then blockEntry? s else plain? s
    | '?' => if isGap s.second then keySign? s else plain? s
    | ':' =>
      if isGap s.second then value? s
      else if s.inFlow && (isFlow s.second || s.adjacentAt == some s.index) then flowValue? s
      else plain? s
    | '|' => if s.inFlow then plain? s else block? true s
    | '>' => if s.inFlow then plain? s else block? false s
    | '%' | '@' | '\x60' => none
    | _ => plain? s

/-- Ends what is still open at the end of a text. -/
def finish? (s : Cursor) : Option (List Token) :=
  if s.keys.any fun mark ↦ mark.possible && mark.required then none
  else
    let s := { s with col := 0 }.unroll (-1)
    some (s.found.reverse.map (·.1))

/-- Reads token after token; the fuel bounds their number. -/
def tokensFrom? : Nat → Cursor → Option (List Token)
  | 0, _ => none
  | fuel + 1, s => do
    let s ← (← nextToken? s).dropStaleKeys?
    let s := s.unroll s.col
    if s.ch == endMark then finish? s else tokensFrom? fuel (← token? s)

/-- The tokens of a text, which ends before its first null character. -/
def tokens? (s : List Char) : Option (List Token) :=
  let s := s.takeWhile (· != endMark)
  tokensFrom? (s.length + 1) { rest := s }

/-- What stands behind a null character does not count. -/
theorem tokens?_append_endMark (s t : List Char) : tokens? (s ++ endMark :: t) = tokens? s := by
  have h : (s ++ endMark :: t).takeWhile (· != endMark) = s.takeWhile (· != endMark) := by
    induction s with
    | nil => simp
    | cons c s ih =>
      rw [List.cons_append, List.takeWhile_cons, List.takeWhile_cons, ih]
  rw [tokens?, tokens?, h]

end Responsive.Yaml

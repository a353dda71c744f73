import Responsive.Media.Sheet
import Responsive.Text.Slice

/-!
# One pass over a stylesheet

The pass goes from one `@media` to the next. The query behind it is cut out of the text and
rewritten; if that changes the query, all text up to it and the new query go to the output, and
every `@media` inside the query is passed over. A query that stays as it is leaves no trace: an
`@media` inside it is looked at on its own later.

Positions are byte offsets, and every part of the text is taken as a slice between two of them.
-/

set_option autoImplicit false
set_option relaxedAutoImplicit false

namespace Responsive.Media

open Text

/-- The byte offsets of `@media` in a text that begins at offset `base`, from left to right. -/
def mediaOffsets (base : Nat) (s : List Char) : List Nat :=
  match _h : cutAt? mediaWord s with
  | none => []
  | some (lead, rest) =>
    (base + byteLength lead) ::
      mediaOffsets (base + byteLength lead + byteLength mediaWord) rest
termination_by s.length
decreasing_by exact length_lt_of_cutAt?_eq_some (by simp [mediaWord]) _h

/-- How far a pass has come: what it has put out, the byte offset up to which that covers the text,
and whether any query was changed. -/
structure Pass where
  output : List Char := []
  copied : Nat := 0
  changed : Bool := false
deriving DecidableEq, Repr

/-- Where a query ends that begins at the offset `start`, with the text `behind` from there on: at
the next opening brace, or with the text. -/
def queryEnd (css behind : List Char) (start : Nat) : Nat :=
  match cutAt? ['\x7b'] behind with
  | some (query, _) => start + byteLength query
  | none => byteLength css

namespace Pass

/-- Deals with the `@media` at a byte offset. -/
def step (boundaries : List Boundary) (css : List Char) (pass : Pass) (start : Nat) :
    Except OutOfRange Pass := do
  let queryStart := start + byteLength mediaWord
  if queryStart ≤ pass.copied then return pass
  let behind ← sliceFrom css queryStart
  let stop := queryEnd css behind queryStart
  let query ← slice css queryStart stop
  let rewritten := substitute boundaries query
  if rewritten = query then return pass
  let lead ← slice css pass.copied queryStart
  return { output := pass.output ++ lead ++ rewritten, copied := stop, changed := true }

/-- The whole output, with the text that is left over; `none` if no query was changed. -/
def finish? (css : List Char) (pass : Pass) : Except OutOfRange (Option (List Char)) := do
  if pass.changed then
    let rest ← sliceFrom css pass.copied
    return some (pass.output ++ rest)
  else return none

/-- Rewrites all queries of a text; `none` if each of them keeps its text. -/
def run (boundaries : List Boundary) (css : List Char) :
    Except OutOfRange (Option (List Char)) := do
  let pass ← (mediaOffsets 0 css).foldlM (step boundaries css) {}
  pass.finish? css

end Pass

/-- The text with the conditions inside its media queries moved to new boundaries; `none` if every
query keeps its text. A pass never asks for a slice that is out of range. -/
def retarget? (boundaries : List Boundary) (css : List Char) : Option (List Char) :=
  match Pass.run boundaries css with
  | .ok result => result
  | .error _ => none

/-- `retarget?`, with the text itself where nothing moves. -/
def retarget (boundaries : List Boundary) (css : List Char) : List Char :=
  (retarget? boundaries css).getD css

end Responsive.Media

import Responsive.Binary64.Text
import Responsive.Logging.Level
import Responsive.Logging.Pattern

/-!
# Log filters

A filter is a list of directives, each a threshold for the events of some origin. It is written as
`threshold`, `target=threshold` or, with conditions on the enclosing span and on fields,
`target[span{field=value}]=threshold`, with commas between directives.

The most specific directive that an event meets decides about it: the one with the longest target,
and of those the one that asks for the most fields; of two equally specific ones the later. An event
that meets none is dropped. Directives on spans or on values of fields never concern an event
outside of spans, but they count as directives, so they replace the default threshold too.
-/

set_option autoImplicit false
set_option relaxedAutoImplicit false

namespace Responsive.Logging

/-- An event to be logged. -/
structure Event where
  level : Level
  target : String
  message : String
  fields : List (String × String) := []
deriving DecidableEq, Repr

/-- What is wrong with the text of a filter. -/
inductive FilterError
  | badThreshold
  | badDirective
  /-- The value of a field is no pattern. -/
  | badField (fault : Pattern.Fault)
  /-- A part would have to be cut inside a character. No program survives that. -/
  | cutCharacter
deriving DecidableEq, Repr

/-- The text of an error. -/
def FilterError.message : FilterError → String
  | badThreshold => Threshold.refusal
  | badDirective => "invalid filter directive"
  | badField fault => "invalid field filter: " ++ fault.message
  | cutCharacter => ""

/-- A condition on a field: that it is there, and perhaps its value. -/
structure FieldMatch where
  name : List Char
  value : Option (List Char)
deriving DecidableEq, Repr

/-- A directive as it is written. -/
structure Directive where
  threshold : Threshold := some .trace
  target : Option (List Char) := none
  span : Option (List Char) := none
  fields : List FieldMatch := []
deriving DecidableEq, Repr

namespace Directive

/-- What is wrong with the value of a field, which is a number or a pattern. -/
def valueFault? (value : List Char) : Option Pattern.Fault :=
  if (Binary64.ofText? value).isSome then none else Pattern.fault? value

/-- Reads a condition on a field. -/
def fieldMatch (s : List Char) : Except FilterError FieldMatch :=
  let name := s.takeWhile (· != '=')
  match s.dropWhile (· != '=') with
  | [] => .ok { name, value := none }
  | _ :: behind =>
    let value := behind.takeWhile (· != '=')
    match valueFault? value with
    | some fault => .error (.badField fault)
    | none => .ok { name, value := some value }

/-- Where the reader is inside a directive; the numbers say where the current part began. -/
inductive State
  | start
  | head (begun : Nat)
  | span (begun : Nat)
  | field (begun : Nat)
  | fields
  | target
  | threshold (begun : Nat)
deriving DecidableEq, Repr

/-- The size of a text in bytes. -/
def byteSize (s : List Char) : Nat :=
  s.foldl (fun n c ↦ n + c.utf8Size) 0

/-- A text in two parts, the first of which has `n` bytes. -/
def splitBytes : Nat → List Char → Except FilterError (List Char × List Char)
  | 0, s => .ok ([], s)
  | _, [] => .error .cutCharacter
  | n, c :: s =>
    if n < c.utf8Size then .error .cutCharacter
    else (splitBytes (n - c.utf8Size) s).map fun (front, rest) ↦ (c :: front, rest)

/-- The text from a place on. -/
def behind (s : List Char) (start : Nat) : Except FilterError (List Char) :=
  (splitBytes start s).map (·.2)

/-- The text from one place to another. -/
def slice (s : List Char) (start stop : Nat) : Except FilterError (List Char) := do
  return (← splitBytes (stop - start) (← behind s start)).1

/-- The directive with a threshold, which is the laxest if nothing is written. -/
def withThreshold (d : Directive) (s : List Char) : Except FilterError Directive :=
  if s.isEmpty then .ok { d with threshold := some .trace }
  else
    match Threshold.ofText? s with
    | some threshold => .ok { d with threshold }
    | none => .error .badThreshold

/-- The directive with one more condition on a field. -/
def withField (d : Directive) (s : List Char) : Except FilterError Directive :=
  if s.isEmpty then .error .badDirective
  else (fieldMatch s).map fun field ↦ { d with fields := d.fields ++ [field] }

/-- Takes the next character, which stands at the place `i`. Places are counted in bytes of the text
without leading blanks, but the parts are cut from the text as it is, so a leading blank shifts
every part and can make it begin or end inside a character. -/
def step (source : List Char) (d : Directive) (state : State) (i : Nat) (c : Char) :
    Except FilterError (Directive × State) :=
  match state, c with
  | .start, '[' => .ok (d, .span (i + 1))
  | .start, c =>
    if c == '-' || c == ':' || c == '_' || Text.isAlphanumeric c then .ok (d, .head i)
    else .error .badDirective
  | .head begun, '=' =>
    return ({ d with target := some (← slice source begun i) }, .threshold (i + 1))
  | .head begun, '[' => return ({ d with target := some (← slice source begun i) }, .span (i + 1))
  | .head begun, _ => .ok (d, .head begun)
  | .span begun, ']' => return ({ d with span := some (← slice source begun i) }, .target)
  | .span begun, '\x7b' => do
    let name ← slice source begun i
    return ({ d with span := if name.isEmpty then none else some name }, .field (i + 1))
  | .span begun, _ => .ok (d, .span begun)
  | .field begun, '\x7d' => return (← d.withField (← slice source begun i), .fields)
  | .field begun, ',' => return (← d.withField (← slice source begun i), .field (i + 1))
  | .field begun, _ => .ok (d, .field begun)
  | .fields, ']' => .ok (d, .target)
  | .target, '=' => .ok (d, .threshold (i + 1))
  | .threshold begun, _ => .ok (d, .threshold begun)
  | .fields, _ | .target, _ => .error .badDirective

/-- Takes the rest of a directive from the place `i` on. -/
def finish (source : List Char) (d : Directive) (state : State) (i : Nat) :
    List Char → Except FilterError Directive
  | [] =>
    match state with
    | .head begun => do
      let word ← behind source begun
      match Threshold.ofText? word with
      | some threshold => return { d with threshold }
      | none => return { d with target := some word }
    | .threshold begun => do d.withThreshold (← behind source begun)
    | .target => .ok d
    | .start | .span _ | .field _ | .fields => .error .badDirective
  | c :: rest => do
    let (d, state) ← step source d state i c
    finish source d state (i + c.utf8Size) rest

/-- Reads a directive. -/
def ofText (source : List Char) : Except FilterError Directive :=
  finish source {} .start 0 (Text.trim source)

/-- Whether the directive can concern an event outside of spans. -/
def concernsEvents (d : Directive) : Bool :=
  d.span.isNone && d.fields.all (·.value.isNone)

/-- Whether an event comes from the target and has the fields. -/
def isMet (d : Directive) (event : Event) : Bool :=
  (match d.target with
    | none => true
    | some target => target.isPrefixOf event.target.toList) &&
  d.fields.all fun field ↦
    field.name == "message".toList || event.fields.any (·.1.toList == field.name)

/-- The size of the target, with no target below every other. -/
def targetWeight (d : Directive) : Nat :=
  match d.target with
  | none => 0
  | some target => byteSize target + 1

/-- The names of the fields that are asked for. -/
def fieldNames (d : Directive) : List (List Char) :=
  d.fields.map (·.name)

/-- Whether the first directive is more specific than the second. Of two with targets of one size
and equally many fields, the one with the greater names of fields counts as more specific. -/
def outweighs (d e : Directive) : Bool :=
  if d.targetWeight ≠ e.targetWeight then e.targetWeight < d.targetWeight
  else if d.fields.length ≠ e.fields.length then e.fields.length < d.fields.length
  else decide (e.fieldNames < d.fieldNames)

end Directive

/-- A filter: its directives, in the order in which they are written. -/
structure EventFilter where
  directives : List Directive
deriving DecidableEq, Repr

namespace EventFilter

/-- The pieces of a text between commas. -/
def pieces (s : List Char) : List (List Char) :=
  (s.splitOn ',').filter (!·.isEmpty)

/-- The filter with these directives; without any, the default threshold holds. -/
def ofDirectives (default : Threshold) (directives : List Directive) : EventFilter where
  directives := if directives.isEmpty then [{ threshold := default }] else directives

/-- Reads a filter. -/
def ofText (default : Threshold) (s : String) : Except FilterError EventFilter := do
  return ofDirectives default (← (pieces s.toList).mapM Directive.ofText)

/-- Reads directives one by one and leaves those with faults out. -/
def readable : List (List Char) → Except FilterError (List Directive)
  | [] => .ok []
  | piece :: rest =>
    match Directive.ofText piece with
    | .ok d => (readable rest).map (d :: ·)
    | .error .cutCharacter => .error .cutCharacter
    | .error _ => readable rest

/-- Reads a filter as far as its directives can be read. -/
def ofReadable (default : Threshold) (s : String) : Except FilterError EventFilter := do
  return ofDirectives default (← readable (pieces s.toList))

/-- A filter that is a threshold for all events. -/
def ofThreshold (threshold : Threshold) : EventFilter where
  directives := [{ threshold }]

/-- The better one of two directives for an event: the more specific one, or else the one that was
written later. -/
def better (found : Option Directive) (d : Directive) : Option Directive :=
  match found with
  | none => some d
  | some e => if e.outweighs d then some e else some d

/-- The directive that decides about an event. -/
def deciding? (filter : EventFilter) (event : Event) : Option Directive :=
  (filter.directives.filter fun d ↦ d.concernsEvents && d.isMet event).foldl better none

/-- Whether an event passes. -/
def allows (filter : EventFilter) (event : Event) : Bool :=
  match filter.deciding? event with
  | none => false
  | some d => Threshold.allows d.threshold event.level

@[simp] theorem allows_ofThreshold (threshold : Threshold) (event : Event) :
    (ofThreshold threshold).allows event = Threshold.allows threshold event.level := rfl

end EventFilter

end Responsive.Logging

import Responsive.Yaml.Tokens
import Responsive.Yaml.Value

/-!
# Reading YAML documents

`read?` reads a text as one value. Anchors name values for aliases further on in the text, also in
later documents. An alias inside of the value that it names stands for nothing.
-/

set_option autoImplicit false
set_option relaxedAutoImplicit false

namespace Responsive.Yaml

/-- What is known between two tokens. -/
structure Scope where
  rest : List Token
  /-- What the last directive says about tags: a handle and what it stands for. -/
  handle : Option (String × String) := none
  /-- The numbers of the values that the anchors name, the last anchor first. -/
  anchors : List (String × Nat) := []
  /-- The values that have numbers and are complete. -/
  values : List (Nat × Value) := []

/-- A step in reading, which may fail. -/
abbrev Reader (α : Type) : Type := StateT Scope Option α

namespace Reader

/-- A failure. -/
def fail {α : Type} : Reader α := fun _ ↦ none

/-- The next token, if there is one. -/
def peek : Reader (Option Token) := do
  return (← get).rest.head?

/-- Passes over the next token. -/
def skip : Reader Unit :=
  modify fun s ↦ { s with rest := s.rest.drop 1 }

/-- Whether the next token is one of these; the end counts as one if `orEnd`. -/
def isNext (tokens : List Token) (orEnd : Bool) : Reader Bool := do
  return match ← peek with
    | some token => tokens.contains token
    | none => orEnd

/-- Passes over the next token if it is the given one, and tells whether it was. -/
def accept (token : Token) : Reader Bool := do
  if ← isNext [token] false then
    skip
    return true
  else return false

/-- Passes over the next token, which has to be the given one. -/
def expect (token : Token) : Reader Unit := do
  if !(← accept token) then fail

/-! ### Tags and anchors -/

/-- What handles stand for unless a directive says otherwise. -/
def coreLead : String := "tag:yaml.org,2002:"

/-- The tag of a lead and what follows it. -/
def tagOf (lead suffix : String) : Tag :=
  if lead == coreLead then .core suffix else .other

/-- Whether a handle has to be declared. -/
def needsHandle (handle : String) : Bool :=
  2 ≤ handle.length && handle.startsWith "!" && handle.endsWith "!"

/-- The tag that a handle and what follows it stand for. -/
def resolve (handle suffix : String) : Reader Tag := do
  match (← get).handle.filter (·.1 == handle) with
  | some (_, lead) => return tagOf lead suffix
  | none =>
    if handle == "!!" then return tagOf coreLead suffix
    else if needsHandle handle then fail
    else return tagOf handle suffix

/-- Gives a new value that is not complete a number, and an anchor to name it. -/
def register (name : String) : Reader Nat := do
  let s ← get
  let number := s.anchors.length
  set { s with anchors := (name, number) :: s.anchors }
  return number

/-- Reads a tag if there is one. -/
def tag : Reader (Option Tag) := do
  match ← peek with
  | some (.tag handle suffix) =>
    skip
    return some (← resolve handle suffix)
  | _ => return none

/-- Reads an anchor if there is one. -/
def anchor : Reader (Option Nat) := do
  match ← peek with
  | some (.anchor name) =>
    skip
    return some (← register name)
  | _ => return none

/-- Reads a tag and an anchor in any order. -/
def properties : Reader (Option Tag × Option Nat) := do
  match ← tag with
  | some tag => return (some tag, ← anchor)
  | none =>
    match ← anchor with
    | some anchor => return (← tag, some anchor)
    | none => return (none, none)

/-- The value that an anchor names. -/
def named (name : String) : Reader Value := do
  let s ← get
  match s.anchors.lookup name with
  | some number => return (s.values.lookup number).getD .bad
  | none => fail

/-- Keeps a complete value for the aliases of its anchor. -/
def keep (anchor : Option Nat) (value : Value) : Reader Value := do
  if let some number := anchor then
    modify fun s ↦ { s with values := (number, value) :: s.values }
  return value

/-! ### Values -/

mutual

/-- Reads a value; in a block it may be a block itself, and in the place of a member a sequence that
is not indented. -/
def node (inBlock isMember : Bool) : Nat → Reader Value
  | 0 => fail
  | fuel + 1 => do
    if let some (.alias name) := ← peek then
      skip
      return ← named name
    let (tag, anchor) ← properties
    let value ← match ← peek with
      | some (.scalar plain s) => do
        skip
        pure (Value.ofScalar tag plain s)
      | some .flowSequence => do
        skip
        pure (.list (← flowItems true fuel))
      | some .flowMapping => do
        skip
        mapping (← flowMembers true fuel)
      | some .blockEntry =>
        if isMember then do pure (.list (← looseItems fuel)) else missing tag anchor
      | some .blockSequence =>
        if inBlock then do
          skip
          pure (.list (← blockItems fuel))
        else missing tag anchor
      | some .blockMapping =>
        if inBlock then do
          skip
          mapping (← blockMembers fuel)
        else missing tag anchor
      | _ => missing tag anchor
    keep anchor value

/-- A value of which there is nothing but a tag or an anchor. -/
def missing (tag : Option Tag) (anchor : Option Nat) : Reader Value :=
  if tag.isSome || anchor.isSome then pure (Value.ofScalar tag true "") else fail

/-- A mapping of members. -/
def mapping (members : List (Value × Value)) : Reader Value :=
  match Value.mapping? members with
  | some value => pure value
  | none => fail

/-- Reads a value of a block, which is `null` before one of the tokens. -/
def blockNode (isMember : Bool) (ends : List Token) : Nat → Reader Value
  | 0 => fail
  | fuel + 1 => do
    if ← isNext ends false then return .null else node true isMember fuel

/-- Reads a value between brackets, which is `null` before one of the tokens. -/
def flowNode (ends : List Token) : Nat → Reader Value
  | 0 => fail
  | fuel + 1 => do
    if ← isNext ends false then return .null else node false false fuel

/-- Reads the items of a block. -/
def blockItems : Nat → Reader (List Value)
  | 0 => fail
  | fuel + 1 => do
    if ← accept .blockEnd then return []
    else
      expect .blockEntry
      let item ← blockNode false [.blockEntry, .blockEnd] fuel
      return item :: (← blockItems fuel)

/-- Reads the items of a sequence that is not indented. -/
def looseItems : Nat → Reader (List Value)
  | 0 => fail
  | fuel + 1 => do
    if ← accept .blockEntry then
      let item ← blockNode false [.blockEntry, .key, .value, .blockEnd] fuel
      return item :: (← looseItems fuel)
    else return []

/-- Reads the members of a block. -/
def blockMembers : Nat → Reader (List (Value × Value))
  | 0 => fail
  | fuel + 1 => do
    if ← accept .blockEnd then return []
    else
      let ends := [.key, .value, .blockEnd]
      let key ← if ← accept .key then blockNode true ends fuel
        else if ← isNext [.value] false then pure .null
        else fail
      let value ← if ← accept .value then blockNode true ends fuel else pure .null
      return (key, value) :: (← blockMembers fuel)

/-- Reads the value of a member between brackets, if there is one. -/
def flowValue (ends : List Token) : Nat → Reader Value
  | 0 => fail
  | fuel + 1 => do
    if ← accept .value then flowNode ends fuel else return .null

/-- Reads the items between brackets. A key makes an item that is a mapping. -/
def flowItems (isFirst : Bool) : Nat → Reader (List Value)
  | 0 => fail
  | fuel + 1 => do
    let ends := [.flowEntry, .flowSequenceEnd]
    if ← accept .flowSequenceEnd then return []
    if !isFirst then expect .flowEntry
    if ← accept .flowSequenceEnd then return []
    let isPair ← isNext [.key, .value] false
    let item ← if isPair then
        let key ← if ← accept .key then flowNode (.value :: ends) fuel else pure .null
        let value ← flowValue ends fuel
        mapping [(key, value)]
      else node false false fuel
    return item :: (← flowItems false fuel)

/-- Reads the members between brackets. -/
def flowMembers (isFirst : Bool) : Nat → Reader (List (Value × Value))
  | 0 => fail
  | fuel + 1 => do
    let ends := [.flowEntry, .flowMappingEnd]
    if ← accept .flowMappingEnd then return []
    if !isFirst then expect .flowEntry
    if ← accept .flowMappingEnd then return []
    let isPair ← isNext [.key, .value] false
    let key ← if ← accept .key then flowNode (.value :: ends) fuel
      else if isPair then pure .null
      else node false false fuel
    let value ← if isPair then flowValue ends fuel else pure .null
    return (key, value) :: (← flowMembers false fuel)

end

/-! ### Documents -/

/-- Passes over the marks that end documents. -/
def documentEnds : Nat → Reader Unit
  | 0 => fail
  | fuel + 1 => do
    if ← accept .documentEnd then documentEnds fuel

/-- Reads directives. The version must be given once at most, and of the rest the last one
counts. -/
def directives : Nat → Bool → Reader Unit
  | 0, _ => fail
  | fuel + 1, versioned => do
    match ← peek with
    | some .version =>
      if versioned then fail
      else
        modify fun s ↦ { s with rest := s.rest.drop 1, handle := none }
        directives fuel true
    | some (.handle name lead) =>
      modify fun s ↦ { s with rest := s.rest.drop 1, handle := some (name, lead) }
      directives fuel versioned
    | _ => return ()

/-- Whether a directive follows. -/
def isAtDirective : Reader Bool := do
  return match ← peek with
    | some .version => true
    | some (.handle _ _) => true
    | _ => false

/-- Reads a document; one that has no mark at its start must not follow another one directly. -/
def document (unmarked : Bool) (fuel : Nat) : Reader Value := do
  if unmarked && !(← isAtDirective) && !(← isNext [.documentStart] false) then
    node true false fuel
  else
    directives fuel false
    expect .documentStart
    if (← isNext [.documentStart, .documentEnd] true) || (← isAtDirective) then return .null
    else node true false fuel

/-- Reads all documents; the fuel bounds their number. -/
def documents (fuel : Nat) : Nat → Bool → Reader (List Value)
  | 0, _ => fail
  | n + 1, unmarked => do
    documentEnds fuel
    if (← peek).isNone then return []
    else
      let value ← document unmarked fuel
      modify fun s ↦ { s with handle := none }
      let ended ← accept .documentEnd
      if !ended && (← isAtDirective) then fail
      return value :: (← documents fuel n ended)

end Reader

/-- The values of all documents of a text. -/
def values? (s : List Char) : Option (List Value) := do
  let tokens ← tokens? s
  let fuel := 4 * tokens.length + 4
  return (← (Reader.documents fuel fuel true).run { rest := tokens }).1

/-- Reads a text of one document. A text without any document is an object without members. -/
def read? (s : String) : Option Json := do
  match ← values? s.toList with
  | [] => return .object []
  | [value] => value.toJson?
  | _ => none

end Responsive.Yaml

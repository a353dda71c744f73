import Responsive.Json.Outline
import Responsive.Json.Print
import Responsive.Text.Quoted

/-!
# Decoding records from JSON

A decoder turns an outline into a value of a type or says what is wrong with it. It works in the
order of the text, so of two faults the first one is reported.

A record is decoded from an object, where unknown members are passed over, absent ones take their
defaults and a known one must not be repeated; or from an array of its fields in order, whose
missing tail takes defaults too.

Decoders run over three kinds of source, which differ in what they say about surplus items: a text
that is being read, a value that is already in memory, and a value that was read whole because its
members are shared out among several records.
-/

set_option autoImplicit false
set_option relaxedAutoImplicit false

namespace Responsive.Json

/-- What is wrong with a document. -/
inductive DecodeError
  /-- The text is not JSON, or exceeds a limit of the reader. -/
  | malformed
  /-- A value of another type stands where one type is expected. -/
  | wrongType (found expected : String)
  /-- A value of the right type is out of range. -/
  | wrongValue (found expected : String)
  /-- An array has more items than expected. -/
  | wrongLength (length : Nat) (expected : String)
  | repeatedField (name : String)
  | unknownVariant (name : String) (known : List String)
  | invalid (reason : String)
deriving DecidableEq, Repr

namespace DecodeError

/-- A name in the quotes of error messages. -/
def tick (name : String) : String :=
  "\x60" ++ name ++ "\x60"

/-- Names with an `or` between the last two. -/
def alternatives : List String → String
  | [] => ""
  | [a] => tick a
  | [a, b] => tick a ++ " or " ++ tick b
  | names => "one of " ++ ", ".intercalate (names.map tick)

/-- The text of an error, without its position. -/
def message : DecodeError → String
  | malformed => "<json syntax>"
  | wrongType found expected => s!"invalid type: {found}, expected {expected}"
  | wrongValue found expected => s!"invalid value: {found}, expected {expected}"
  | wrongLength length expected => s!"invalid length {length}, expected {expected}"
  | repeatedField name => "duplicate field " ++ tick name
  | unknownVariant name known =>
    "unknown variant " ++ tick name ++ ", expected " ++ alternatives known
  | invalid reason => reason

end DecodeError

/-- Where an outline comes from. -/
inductive Origin
  /-- A text, read as far as it is asked for. -/
  | text
  /-- A value in memory. -/
  | value
  /-- A value read whole before it is decoded. -/
  | buffer
deriving DecidableEq, Repr

/-- The surroundings of an outline: its origin, and how deeply containers may still nest. -/
structure Place where
  origin : Origin
  depth : Nat
deriving Repr

/-- The surroundings of what a container holds. -/
def Place.inner (place : Place) : Place :=
  { place with depth := place.depth - 1 }

/-- Whether one more container may be opened. -/
def Place.hasRoom (place : Place) : Bool :=
  1 < place.depth

/-- A reader of a type from an outline. -/
def Decoder (α : Type) := Place → Outline → Except DecodeError α

/-- What stands in a number, for messages. -/
def Number.describe : Number → String
  | .int n => "integer " ++ DecodeError.tick (.ofList (Text.decimal n))
  | .float x => "floating point " ++ DecodeError.tick (.ofList x.numeralText)

/-- Reports an outline of the wrong type; an outline whose value has a fault is malformed. -/
def mismatch {α : Type} (expected : String) : Outline → Except DecodeError α
  | .null => .error (.wrongType "null" expected)
  | .bool b => .error (.wrongType ("boolean " ++ DecodeError.tick (toString b)) expected)
  | .number (some n) => .error (.wrongType n.describe expected)
  | .text (some s) => .error (.wrongType ("string " ++ Text.quoted s) expected)
  | .array .. => .error (.wrongType "sequence" expected)
  | .object .. => .error (.wrongType "map" expected)
  | .number none | .text none | .broken => .error .malformed

namespace Decoder

/-- A string. -/
def string (expected : String) : Decoder String := fun _ outline ↦
  match outline with
  | .text (some s) => .ok s
  | outline => mismatch expected outline

/-- A truth value. -/
def bool : Decoder Bool := fun _ outline ↦
  match outline with
  | .bool b => .ok b
  | outline => mismatch "a boolean" outline

/-- A natural number of at most 64 bits. -/
def word : Decoder Nat := fun _ outline ↦
  match outline with
  | .number (some (.int n)) =>
    if 0 ≤ n then .ok n.toNat else .error (.wrongValue (Number.describe (.int n)) "usize")
  | outline => mismatch "usize" outline

/-- An absent value for `null`. -/
def option {α : Type} (decode : Decoder α) : Decoder (Option α) := fun place outline ↦
  match outline with
  | .null => .ok none
  | outline => (decode place outline).map some

/-- All items of an array. -/
def items {α : Type} (decode : Decoder α) (place : Place) (closed : Bool) :
    List Outline → Except DecodeError (List α)
  | [] => if closed then .ok [] else .error .malformed
  | item :: rest => do
    let a ← decode place item
    let as ← items decode place closed rest
    .ok (a :: as)

/-- An array. -/
def list {α : Type} (decode : Decoder α) : Decoder (List α) := fun place outline ↦
  match outline with
  | .array outlines closed =>
    if place.hasRoom then items decode place.inner closed outlines else .error .malformed
  | outline => mismatch "a sequence" outline

/-- Any value. -/
def any : Decoder Json := fun place outline ↦
  match outline.value? place.depth with
  | some value => .ok value
  | none => .error .malformed

/-- The members of an object with values of any kind; of two with one name the later one counts. -/
def members : Decoder (Entries Json) := fun place outline ↦
  match outline with
  | .object .. =>
    match outline.value? place.depth with
    | some (.object members) => .ok members
    | _ => .error .malformed
  | outline => mismatch "a map" outline

end Decoder

/-- A field of a record: its name, and how its value changes the record. -/
structure Field (σ : Type) where
  name : String
  decode : Place → Outline → Except DecodeError (σ → σ)

/-- A field with a decoder for its value and a way to store it. -/
def Field.of {σ α : Type} (name : String) (decode : Decoder α) (store : α → σ → σ) : Field σ where
  name := name
  decode place outline := (decode place outline).map store

namespace Decoder

variable {σ : Type}

/-- Takes the members of a record one after the other; `seen` are the fields met so far. -/
def recordMembers (fields : List (Field σ)) (place : Place) (closed : Bool) :
    List String → σ → List (Outline × Outline) → Except DecodeError σ
  | _, record, [] => if closed then .ok record else .error .malformed
  | seen, record, (key, value) :: rest =>
    match key.name? with
    | none => .error .malformed
    | some name =>
      match fields.find? (·.name == name) with
      | none =>
        if value.isWhole then recordMembers fields place closed seen record rest
        else .error .malformed
      | some field =>
        if seen.contains name then .error (.repeatedField name)
        else do
          let store ← field.decode place value
          recordMembers fields place closed (name :: seen) (store record) rest

/-- Takes the items of an array as the fields of a record in order. -/
def recordItems (place : Place) (closed : Bool) :
    List (Field σ) → σ → List Outline → Except DecodeError (σ × List Outline)
  | [], record, rest => .ok (record, rest)
  | _ :: _, record, [] => if closed then .ok (record, []) else .error .malformed
  | field :: fields, record, item :: rest => do
    let store ← field.decode place item
    recordItems place closed fields (store record) rest

/-- What a source says about an array with more items than a record has fields. -/
def surplus (origin : Origin) (taken length : Nat) : DecodeError :=
  match origin with
  | .text => .malformed
  | .value => .wrongLength length "fewer elements in array"
  | .buffer =>
    .wrongLength length (if taken = 1 then "1 element in sequence"
      else s!"{taken} elements in sequence")

/-- A record of the given fields, each of which has a default. -/
def record (title : String) (fields : List (Field σ)) (default : σ) : Decoder σ :=
  fun place outline ↦
  match outline with
  | .object members closed =>
    if place.hasRoom then recordMembers fields place.inner closed [] default members
    else .error .malformed
  | .array items closed =>
    if place.hasRoom then do
      let (record, rest) ← recordItems place.inner closed fields default items
      if rest.isEmpty then
        if closed then .ok record else .error .malformed
      else .error (surplus place.origin fields.length items.length)
    else .error .malformed
  | outline => mismatch ("struct " ++ title) outline

/-- A record that shares its object with others, so that the whole object is read before any of its
members is decoded. An array does not stand for such a record. -/
def sharedRecord (title : String) (fields : List (Field σ)) (default : σ) : Decoder σ :=
  fun place outline ↦
  match outline with
  | .object members _ =>
    if (outline.value? place.depth).isSome then
      recordMembers fields { origin := .buffer, depth := place.depth } true [] default members
    else .error .malformed
  | outline => mismatch ("struct " ++ title) outline

end Decoder

/-- Decodes a text that is one value, with white space around it. -/
def decode {α : Type} (decoder : Decoder α) (s : String) : Except DecodeError α :=
  match Outline.read s.toList with
  | (outline, rest) => do
    let a ← decoder ⟨.text, depthLimit⟩ outline
    match rest with
    | some rest => if (skipSpace rest).isEmpty then .ok a else .error .malformed
    | none => .error .malformed

mutual

/-- How deeply the containers of a value nest. -/
def depth : Json → Nat
  | .array items => itemsDepth items + 1
  | .object members => membersDepth members + 1
  | _ => 0

/-- The deepest nesting in any item. -/
def itemsDepth : List Json → Nat
  | [] => 0
  | item :: items => max (depth item) (itemsDepth items)

/-- The deepest nesting in any member. -/
def membersDepth : List (String × Json) → Nat
  | [] => 0
  | (_, value) :: members => max (depth value) (membersDepth members)

end

/-- Decodes a value in memory, which may nest to any depth. -/
def decodeValue {α : Type} (decoder : Decoder α) (value : Json) : Except DecodeError α :=
  decoder ⟨.value, value.depth + 2⟩ (.ofJson value)

end Responsive.Json

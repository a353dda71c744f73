import Responsive.Settings.Error

/-!
# Definitions of settings

A setting is a record: an object with declared properties, each of one JSON type. A definition that
declares no property accepts any object. The definition is also published as a schema.
-/

set_option autoImplicit false
set_option relaxedAutoImplicit false

namespace Responsive

/-- The JSON types that a property may declare. -/
inductive PropertyType
  | string
  | integer
  | number
  | boolean
  | array
  | object
deriving DecidableEq, Repr, Inhabited

namespace PropertyType

/-- All types, in the order in which messages list them. -/
def all : List PropertyType :=
  [string, integer, number, boolean, array, object]

/-- The name of a type. -/
def name : PropertyType → String
  | string => "string"
  | integer => "integer"
  | number => "number"
  | boolean => "boolean"
  | array => "array"
  | object => "object"

/-- Whether a value is of the type. Every integer is a number, but no float is an integer. -/
def accepts : PropertyType → Json → Bool
  | string, .text _ => true
  | integer, .number (.int _) => true
  | number, .number _ => true
  | boolean, .bool _ => true
  | array, .array _ => true
  | object, .object _ => true
  | _, _ => false

/-- The type of that name. -/
def ofName (name : String) : Except Json.DecodeError PropertyType :=
  match all.find? (·.name == name) with
  | some kind => .ok kind
  | none => .error (.unknownVariant name (all.map PropertyType.name))

end PropertyType

/-- The name of the kind of a value, for messages. -/
def Json.kindName : Json → String
  | .null => "null"
  | .bool _ => "boolean"
  | .number _ => "number"
  | .text _ => "string"
  | .array _ => "array"
  | .object _ => "object"

/-- A setting: its name, its properties in the order of their declaration, and the value that stands
in for a missing record. -/
structure Definition where
  name : String
  description : String
  properties : List (String × PropertyType) := []
  default : Json := .object []
deriving Inhabited

namespace Definition

/-- The definition with one more property. -/
def property (d : Definition) (name : String) (kind : PropertyType) : Definition :=
  { d with properties := d.properties ++ [(name, kind)] }

/-- The published description of the setting. -/
def schema (d : Definition) : Json :=
  .ofPairs
    [("type", .text "object"),
      ("description", .text d.description),
      ("properties",
        .ofPairs (d.properties.map fun p ↦ (p.1, .ofPairs [("type", .text p.2.name)]))),
      ("default", d.default)]

/-- One line of JSON with the whole definition. -/
def serialized (d : Definition) : String :=
  Json.compactRecord
    [("name", .text d.name),
      ("description", .text d.description),
      ("properties", .array (d.properties.map fun p ↦ .array [.text p.1, .text p.2.name])),
      ("default", d.default)]

/-- The complaint about a value. -/
def refusal (d : Definition) (reason : String) : SettingsError where
  cause := .schema reason
  context := some d.name

/-- Takes the declared properties out of the fields one after the other. A property that is absent
or `null` is left out; one declared again finds its field taken. -/
def takeProperties (d : Definition) (fields : Entries Json) :
    List (String × PropertyType) → Entries Json → Except SettingsError (Entries Json)
  | [], taken => .ok taken
  | (name, kind) :: properties, taken =>
    let rest := Entries.erase name fields
    match Entries.get? fields name with
    | none | some .null => d.takeProperties rest properties taken
    | some field =>
      if kind.accepts field then d.takeProperties rest properties (Entries.insert name field taken)
      else
        .error (d.refusal s!"property '{name}' must be {kind.name}, got {field.kindName}")

/-- The part of a value that the definition lets in. -/
def sanitize (d : Definition) (value : Json) : Except SettingsError Json :=
  match value with
  | .object fields =>
    if d.properties.isEmpty then .ok (.object fields)
    else (d.takeProperties fields d.properties []).map .object
  | value => .error (d.refusal s!"expected an object, got {value.kindName}")

end Definition

end Responsive

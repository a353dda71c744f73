import Responsive.Binary64.Text
import Responsive.Json.Basic
import Responsive.Json.Outline

/-!
# Values of YAML

What a plain text stands for, and what a value means in a configuration. A text that is not plain is
never anything but a text.

* `ofScalar_quoted`: a text in quotes stands for itself, whatever its tag.
-/

set_option autoImplicit false
set_option relaxedAutoImplicit false

namespace Responsive.Yaml

/-- A value. The keys of a mapping are values too. -/
inductive Value
  | null
  | bool (b : Bool)
  | int (n : Int)
  /-- A float as it is written. -/
  | real (s : String)
  | text (s : String)
  | list (items : List Value)
  | mapping (members : List (Value × Value))
  /-- A text that is not what its tag says. -/
  | bad
deriving Repr, Inhabited

/-- A tag: one of the types that every document has, or any other. -/
inductive Tag
  | core (name : String)
  | other
deriving DecidableEq, Repr

namespace Value

/-! ### Numbers -/

/-- An integer that fits 64 signed bits. -/
def boxed? (n : Int) : Option Int :=
  if -(Nat.pow 2 63 : Int) ≤ n ∧ n < (Nat.pow 2 63 : Int) then some n else none

/-- The value of a digit in a base. -/
def digitIn? (base : Nat) (c : Char) : Option Nat :=
  (Json.hexValue? c).filter (· < base)

/-- The integer of a text in a base, which may have a sign. -/
def integerIn? (base : Nat) (s : List Char) : Option Int :=
  let (negative, digits) := Binary64.signed s
  if digits.isEmpty then none
  else do
    let n ← digits.foldl (fun n c ↦ do return base * (← n) + (← digitIn? base c)) (some 0)
    boxed? (if negative then -(n : Int) else n)

/-- The integer of a text: hexadecimal behind `0x`, octal behind `0o`, and decimal otherwise. -/
def integer? (s : List Char) : Option Int :=
  match s with
  | '0' :: 'x' :: digits => integerIn? 16 digits
  | '0' :: 'o' :: digits => integerIn? 8 digits
  | '+' :: digits => integerIn? 10 digits <|> integerIn? 10 s
  | s => integerIn? 10 s

/-- The names of the floats that have no digits. -/
def floatNames : List String :=
  [".inf", ".Inf", ".INF", "+.inf", "+.Inf", "+.INF", "-.inf", "-.Inf", "-.INF", ".nan", ".NaN",
    ".NAN"]

/-- Whether a text is a float. -/
def isFloat (s : String) : Bool :=
  floatNames.contains s || (s.toList.any Char.isDigit && (Binary64.ofText? s.toList).isSome)

/-! ### Texts -/

/-- The truth value of a text. -/
def bool? (s : String) : Option Bool :=
  if ["true", "True", "TRUE"].contains s then some true
  else if ["false", "False", "FALSE"].contains s then some false
  else none

/-- The value of a plain text without a tag. -/
def ofPlain (s : String) : Value :=
  match integer? s.toList, bool? s with
  | some n, _ => int n
  | none, some b => bool b
  | none, none =>
    if ["", "~", "null", "Null", "NULL"].contains s then null
    else if isFloat s then real s
    else text s

/-- The value of a plain text whose tag names a type. -/
def ofTagged (tag : String) (s : String) : Value :=
  if tag == "bool" then ((bool? s).map bool).getD bad
  else if tag == "int" then ((integerIn? 10 s.toList).map int).getD bad
  else if tag == "float" then if isFloat s then real s else bad
  else if tag == "null" then if ["~", "null"].contains s then null else bad
  else text s

/-- The value of a text. -/
def ofScalar (tag : Option Tag) (plain : Bool) (s : String) : Value :=
  if !plain then text s
  else
    match tag with
    | none => ofPlain s
    | some (.core name) => ofTagged name s
    | some .other => text s

/-- A text in quotes stands for itself, whatever its tag. -/
theorem ofScalar_quoted (tag : Option Tag) (s : String) : ofScalar tag false s = text s := rfl

/-! ### Mappings -/

mutual

/-- Whether two values are the same. Floats are compared as they are written, and the order of
members counts. -/
def same : Value → Value → Bool
  | null, null => true
  | bad, bad => true
  | bool a, bool b => a == b
  | int a, int b => a == b
  | real a, real b => a == b
  | text a, text b => a == b
  | list a, list b => sameItems a b
  | mapping a, mapping b => sameMembers a b
  | _, _ => false

/-- Whether two lists have the same items. -/
def sameItems : List Value → List Value → Bool
  | [], [] => true
  | a :: as, b :: bs => same a b && sameItems as bs
  | _, _ => false

/-- Whether two mappings have the same members. -/
def sameMembers : List (Value × Value) → List (Value × Value) → Bool
  | [], [] => true
  | (k, v) :: as, (k', v') :: bs => same k k' && same v v' && sameMembers as bs
  | _, _ => false

end

/-- A mapping, none of whose keys may be there twice. -/
def mapping? (members : List (Value × Value)) : Option Value :=
  let keys := members.map (·.1)
  if (keys.zipIdx.all fun (key, i) ↦ !(keys.take i).any (same key)) then some (mapping members)
  else none

/-! ### Configurations -/

/-- The name that a key stands for. -/
def name? : Value → Option String
  | text s => some s
  | real s => some s
  | int n => some (toString n)
  | bool b => some (if b then "true" else "false")
  | _ => none

mutual

/-- What a value means in a configuration. A float without digits has no meaning there. -/
def toJson? : Value → Option Json
  | null => some .null
  | bad => some .null
  | bool b => some (.bool b)
  | int n => some (.int n)
  | real s => (Binary64.ofText? s.toList).map fun x ↦ .number (.float x)
  | text s => some (.text s)
  | list items => (itemsToJson? items).map .array
  | mapping members => (membersToJson? members).map .ofPairs

/-- What items mean. -/
def itemsToJson? : List Value → Option (List Json)
  | [] => some []
  | item :: items => do
    let j ← toJson? item
    return j :: (← itemsToJson? items)

/-- What members mean. -/
def membersToJson? : List (Value × Value) → Option (List (String × Json))
  | [] => some []
  | (key, value) :: members => do
    let name ← key.name?
    let j ← toJson? value
    return (name, j) :: (← membersToJson? members)

end

end Value

end Responsive.Yaml

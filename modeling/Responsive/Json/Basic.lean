import Responsive.Binary64.Basic
import Responsive.Entries

/-!
# JSON values

A number is an integer or a float, and the two are never confused: `1` and `1.0` are different
values. The members of an object have distinct names in increasing order.
-/

set_option autoImplicit false
set_option relaxedAutoImplicit false

namespace Responsive

/-- A number of a JSON document. -/
inductive Json.Number
  | int (n : Int)
  | float (x : Binary64)
deriving DecidableEq, Repr, Inhabited

/-- A JSON value. -/
inductive Json
  | null
  | bool (b : Bool)
  | number (n : Json.Number)
  | text (s : String)
  | array (items : List Json)
  | object (members : List (String × Json))
deriving Repr, Inhabited

namespace Json

/-- An integer as a value. -/
def int (n : Int) : Json :=
  number (.int n)

/-- A natural number as a value. -/
def nat (n : Nat) : Json :=
  number (.int n)

/-- An object from pairs in any order. -/
def ofPairs (pairs : List (String × Json)) : Json :=
  object (Entries.ofPairs pairs)

/-- An array of texts. -/
def texts (l : List String) : Json :=
  array (l.map text)

/-- `null` for an absent value. -/
def ofOption {α : Type} (encode : α → Json) : Option α → Json
  | none => null
  | some a => encode a

/-- The member of that name, if the value is an object that has one. -/
def member? (name : String) : Json → Option Json
  | object members => Entries.get? members name
  | _ => none

/-- Whether the value is `null`. -/
def isNull : Json → Bool
  | null => true
  | _ => false

end Json

end Responsive

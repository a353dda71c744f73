import Responsive.Json.Basic

/-!
# Tables under construction

A document is read line by line into a tree that remembers how each table came to be: by its own
header, as a parent in some other header, or by a dotted key. A table is defined once: its header
may follow headers of its children, but not a second header or dotted keys that made it. Dotted keys
add to tables that dotted keys made, and to mere parents, which they make their own.
-/

set_option autoImplicit false
set_option relaxedAutoImplicit false

namespace Responsive.Toml

/-- How a table came to be. -/
inductive Origin
  | header
  /-- It is a parent in the header of another table. -/
  | parent
  | dotted
deriving DecidableEq, Repr

/-- A node of the tree. -/
inductive Item
  | value (v : Json)
  | table (origin : Origin) (members : List (String × Item))
  /-- An array of tables made by headers, the last one first. -/
  | rows (rows : List (List (String × Item)))
deriving Inhabited

/-- The members of a table in the order of their definition. -/
abbrev Members := List (String × Item)

namespace Members

/-- Puts an item in the place of the one of that name, or at the end. -/
def put (name : String) (item : Item) : Members → Members
  | [] => [(name, item)]
  | (n, i) :: rest => if n = name then (name, item) :: rest else (n, i) :: put name item rest

/-- Defines the value of a dotted key. The table at hand takes a value only if it is `open`. -/
def define (value : Json) : List String → Bool → Members → Option Members
  | [], _, _ => none
  | [name], isOpen, members =>
    if isOpen && (members.lookup name).isNone then some (members ++ [(name, .value value)])
    else none
  | name :: path, _, members =>
    match members.lookup name with
    | none => (define value path true []).map fun inner ↦ members ++ [(name, .table .dotted inner)]
    | some (.table .header _) => none
    | some (.table _ inner) =>
      (define value path true inner).map fun inner ↦ put name (.table .dotted inner) members
    | some (.rows (row :: rows)) =>
      (define value path false row).map fun row ↦ put name (.rows (row :: rows)) members
    | _ => none

/-- Changes the last table of a path, and makes its parents where they are missing. Of an array of
tables the last one counts. -/
def descend (change : String → Members → Option Members) : List String → Members → Option Members
  | [], _ => none
  | [name], members => change name members
  | name :: path, members =>
    match members.lookup name with
    | none => (descend change path []).map fun inner ↦ members ++ [(name, .table .parent inner)]
    | some (.table origin inner) =>
      (descend change path inner).map fun inner ↦ put name (.table origin inner) members
    | some (.rows (row :: rows)) =>
      (descend change path row).map fun row ↦ put name (.rows (row :: rows)) members
    | _ => none

/-- Opens a table by its header. -/
def openTable : List String → Members → Option Members :=
  descend fun name members ↦
    match members.lookup name with
    | none => some (members ++ [(name, .table .header [])])
    | some (.table .parent inner) => some (put name (.table .header inner) members)
    | _ => none

/-- Opens one more table of an array by its header. -/
def openRow : List String → Members → Option Members :=
  descend fun name members ↦
    match members.lookup name with
    | none => some (members ++ [(name, .rows [[]])])
    | some (.rows rows) => some (put name (.rows ([] :: rows)) members)
    | _ => none

/-- Changes the members of the table that a header has opened. -/
def within (change : Members → Option Members) : List String → Members → Option Members
  | [], members => change members
  | name :: path, members =>
    match members.lookup name with
    | some (.table origin inner) =>
      (within change path inner).map fun inner ↦ put name (.table origin inner) members
    | some (.rows (row :: rows)) =>
      (within change path row).map fun row ↦ put name (.rows (row :: rows)) members
    | _ => none

end Members

mutual

/-- The value of an item. -/
def Item.toJson : Item → Json
  | .value v => v
  | .table _ members => .ofPairs (Members.toPairs members)
  | .rows rows => .array (Members.toObjects rows).reverse

/-- The names and values of members. -/
def Members.toPairs : List (String × Item) → List (String × Json)
  | [] => []
  | (name, item) :: members => (name, item.toJson) :: Members.toPairs members

/-- The values of tables. -/
def Members.toObjects : List (List (String × Item)) → List Json
  | [] => []
  | row :: rows => .ofPairs (Members.toPairs row) :: Members.toObjects rows

end

end Responsive.Toml

import Responsive.Json.Basic
import Responsive.Json.Outline
import Responsive.Text.Decimal

/-!
# Merging configuration sources

A configuration is put together from sources, each of which sets values at paths. A path is a name
followed by members, as in `fonts.locale`, and indices, as in `namespaces[0]`; a negative index
counts from the end. Setting a value makes the objects and arrays on its path, in the place of
anything else that stands there, and an object is merged into the one that it meets.

* `merge_of_object`: an object and anything else merge into an object.
-/

set_option autoImplicit false
set_option relaxedAutoImplicit false

namespace Responsive.Config

open Text

/-- A step of a path. -/
inductive Step
  | member (name : String)
  | index (i : Int)
deriving DecidableEq, Repr

/-- A character of a name in a path. -/
def isNameChar (c : Char) : Bool :=
  c.isAlphanum || c == '_' || c == '-'

/-- The largest magnitude of an index. -/
def maxIndex : Nat := Nat.pow 2 63 - 1

/-- A blank, as it may stand on both sides of an index. -/
def isPadding (c : Char) : Bool :=
  c == ' ' || c == '\t'

/-- Reads an index behind its opening bracket, up to and including the closing one. -/
def index? (s : List Char) : Option (Int × List Char) :=
  let (negative, s) := match s.dropWhile isPadding with
    | '-' :: s => (true, s)
    | s => (false, s)
  match readNat? (s.takeWhile Char.isDigit), (s.dropWhile Char.isDigit).dropWhile isPadding with
  | some n, ']' :: rest =>
    if maxIndex < n then none else some (if negative then -(n : Int) else n, rest)
  | _, _ => none

/-- Reads the steps behind the first name; the fuel bounds their number. -/
def steps? : Nat → List Char → Option (List Step)
  | _, [] => some []
  | 0, _ => none
  | fuel + 1, '.' :: s =>
    match s.takeWhile isNameChar with
    | [] => none
    | name => (steps? fuel (s.dropWhile isNameChar)).map (.member (.ofList name) :: ·)
  | fuel + 1, '[' :: s => do
    let (i, rest) ← index? s
    (steps? fuel rest).map (.index i :: ·)
  | _, _ => none

/-- The path that a text stands for. A text that is no path is a name as a whole. -/
def pathOf (s : String) : List Step :=
  let chars := s.toList
  match chars.takeWhile isNameChar with
  | [] => [.member s]
  | name =>
    match steps? chars.length (chars.dropWhile isNameChar) with
    | some steps => .member (.ofList name) :: steps
    | none => [.member s]

/-- The members of an object; none of anything else. -/
def membersOf : Json → Entries Json
  | .object members => members
  | _ => []

/-- The items of an array; none of anything else. -/
def itemsOf : Json → List Json
  | .array items => items
  | _ => []

mutual

/-- A value on top of another one. -/
def merge (old : Json) : Json → Json
  | .object members => .object (mergeMembers (membersOf old) members)
  | .null => .null
  | .bool b => .bool b
  | .number n => .number n
  | .text s => .text s
  | .array items => .array items

/-- Members on top of other ones. -/
def mergeMembers (old : Entries Json) : List (String × Json) → Entries Json
  | [] => old
  | (name, value) :: members =>
    let merged := merge ((Entries.get? old name).getD .null) value
    mergeMembers (Entries.insert name merged old) members

end

/-- Items with place for an index, and the place. -/
def makeRoom (items : List Json) (i : Int) : List Json × Nat :=
  let fromEnd := (-i).toNat
  if 0 ≤ i then (items ++ List.replicate (i.toNat + 1 - items.length) .null, i.toNat)
  else if fromEnd ≤ items.length then (items, items.length - fromEnd)
  else (List.replicate (fromEnd - items.length) .null ++ items, 0)

/-- Sets the value at a path. -/
def setAt (value : Json) : List Step → Json → Json
  | [], old => merge old value
  | .member name :: steps, old =>
    let members := membersOf old
    let inner := setAt value steps ((Entries.get? members name).getD .null)
    .object (Entries.insert name inner members)
  | .index i :: steps, old =>
    let (items, place) := makeRoom (itemsOf old) i
    .array (items.set place (setAt value steps (items.getD place .null)))

/-- Puts a source, which gives values under the texts of their paths, on top of a configuration. -/
def overlay (config : Json) (source : Entries Json) : Json :=
  source.foldl (fun config entry ↦ setAt entry.2 (pathOf entry.1) config) config

/-- An object and anything else merge into an object. -/
theorem merge_of_object (old : Json) (members : List (String × Json)) :
    merge old (.object members) = .object (mergeMembers (membersOf old) members) := by
  rw [merge]

/-- A path whose text is one name has one step. -/
theorem setAt_member (value old : Json) (name : String) :
    setAt value [.member name] old =
      .object (Entries.insert name (merge ((Entries.get? (membersOf old) name).getD .null) value)
        (membersOf old)) := rfl

end Responsive.Config

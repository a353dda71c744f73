import Responsive.Json.Decode

/-!
# Blocks of page content

A page is rendered block by block. A block has a name, unless it is free-form content, and
attributes of any kind.
-/

set_option autoImplicit false
set_option relaxedAutoImplicit false

namespace Responsive

open Json

/-- A block: its name, if it has one, and its attributes. -/
structure Block where
  name : Option String := none
  attributes : Entries Json := []
deriving Inhabited

namespace Block

/-- Whether the name begins with one of the given words; the empty word does not count. -/
def inNamespace (block : Block) (namespaces : List String) : Bool :=
  match block.name with
  | none => false
  | some name => namespaces.any fun space ↦ !space.isEmpty && space.toList.isPrefixOf name.toList

theorem inNamespace_iff {block : Block} {namespaces : List String} :
    block.inNamespace namespaces = true ↔
      ∃ name ∈ block.name, ∃ space ∈ namespaces, space ≠ "" ∧ space.toList <+: name.toList := by
  cases hname : block.name with
  | none => simp [inNamespace, hname]
  | some name => simp [inNamespace, hname]

/-- Reads a block. -/
def decoder : Decoder Block :=
  Decoder.record "Block"
    [.of "blockName" (.option (.string "a string")) fun name block ↦ { block with name },
      .of "attrs" .members fun attributes block ↦ { block with attributes }]
    {}

/-- One line of JSON: the name and the attributes. -/
def serialized (block : Block) : String :=
  compactRecord
    [("blockName", .ofOption .text block.name), ("attrs", .object block.attributes)]

end Block

end Responsive

import Responsive.ErrorEnum.TypePath

/-!
# Expansion of error enumerations

An enumeration of errors is expanded into itself and the code that gives its errors a context and
makes them from their sources. It is refused unless every variant has named fields, every context is
an optional text, and every variant with a source has a context.

The expansion is kept as a list of declarations, each with what it mentions of the enumeration;
their texts are in `Responsive.ErrorEnum.Print`.
-/

set_option autoImplicit false
set_option relaxedAutoImplicit false

namespace Responsive.ErrorEnum

/-- Why an item is not expanded. -/
inductive Refusal
  | notEnumeration
  | unnamedFields
  | contextType
  | missingContext
deriving DecidableEq, Repr

/-- The text of a refusal. -/
def Refusal.message : Refusal → String
  | notEnumeration => "rebreak_error can only be applied to enums"
  | unnamedFields => "rebreak_error requires named fields so source/context can be wired"
  | contextType => "context field must be Option<Cow<'static, str>>"
  | missingContext =>
    "rebreak_error variants with a source need \x60context: Option<Cow<'static, str>>\x60"

/-- The name of the field for the context. -/
def contextName : String := "context"

/-- The name of the variant for errors without a source. -/
def internalName : String := "Internal"

/-- Whether a field holds the source of an error: it is called so or marked so. -/
def Field.isSource (f : Field) : Bool :=
  f.name == "source" || f.attributes.any fun a ↦ a.isNamed "source" || a.isNamed "from"

/-- What the expansion needs to know of a variant. -/
structure ErrorVariant where
  name : String
  fields : List Field
  /-- The attributes under which the variant exists. -/
  conditions : List Attribute
deriving Repr

namespace ErrorVariant

/-- The field with the source. -/
def source? (v : ErrorVariant) : Option Field :=
  v.fields.find? Field.isSource

/-- Whether the variant has a field for the context. -/
def hasContext (v : ErrorVariant) : Bool :=
  v.fields.any (·.name == contextName)

/-- Whether the variant is the one for errors without a source. -/
def isInternal (v : ErrorVariant) : Bool :=
  v.name == internalName

end ErrorVariant

/-- Looks at a variant: its fields have names, and the context is an optional text. -/
def inspect (v : Variant) : Except Refusal ErrorVariant :=
  match v.shape with
  | .unnamed => .error .unnamedFields
  | .named fields =>
    if fields.any fun f ↦ f.name == contextName && !isContextType f.type then .error .contextType
    else
      .ok
        { name := v.name, fields
          conditions := v.attributes.filter (·.isNamed "cfg") }

/-- The value of a field in a constructor. -/
inductive Filling
  /-- The variable that is called like the field. -/
  | same
  /-- No context. -/
  | nothing
  /-- The context at hand. -/
  | someContext
  /-- The text at hand, borrowed or owned. -/
  | message (owned : Bool)
deriving DecidableEq, Repr

/-- A variant with values for its fields, as generated code makes it. -/
structure Construction where
  variant : String
  fields : List (String × Filling)
deriving DecidableEq, Repr

/-- A declaration of an expansion. -/
inductive Declaration
  /-- The enumeration itself, with the derivations that it lacks. -/
  | definition (derived : List String) (e : Enumeration)
  /-- The trait by which a context is added. -/
  | contextTrait (name : String)
  /-- Adding a context to an error of the enumeration; the arms are the variants that have one. -/
  | contextOfError (name : String) (arms : List (List Attribute × String))
  /-- Making an error from its source. -/
  | fromSource (name : String) (conditions : List Attribute) (source : Field)
      (made : Construction)
  /-- Making an error from its source and a context. -/
  | contextOfSource (name : String) (conditions : List Attribute) (source : Field)
      (made : Construction)
  /-- Making an error from a text. -/
  | fromMessage (name : String) (conditions : List Attribute) (owned : Bool)
      (made : Construction)
  /-- The function that puts a context in parentheses. -/
  | formatter
deriving Repr

/-- The end of the path at the front of tokens, and the rest. -/
def leadingPath : Nat → List Token → Option (String × List Token)
  | fuel + 1, .word _ :: .punct ":" :: .punct ":" :: rest => leadingPath fuel rest
  | _, .word w :: rest => some (w, rest)
  | _, _ => none

/-- The names that a list of derivations brings in, up to its first fault. -/
def derivedNames : List (List Token) → List String
  | [] => []
  | piece :: more =>
    let piece := match piece with
      | .punct ":" :: .punct ":" :: rest => rest
      | piece => piece
    match leadingPath piece.length piece with
    | none => []
    | some (name, []) => name :: derivedNames more
    | some (name, _) => [name]

/-- Cuts tokens at all commas; there is no piece behind a comma at the very end. -/
def listPieces (tokens : List Token) : List (List Token) :=
  let found := tokens.splitOnP isComma
  if found.getLast?.any List.isEmpty then found.dropLast else found

/-- The names that an attribute derives. -/
def Attribute.derived (a : Attribute) : List String :=
  match a.tokens with
  | [.word "derive", .group _ inner] => derivedNames (listPieces inner)
  | _ => []

/-- The derivations that an enumeration lacks. -/
def missingDerivations (e : Enumeration) : List String :=
  let present := e.attributes.flatMap Attribute.derived
  (if present.contains "Debug" then [] else ["Debug"]) ++
    if present.contains "Error" then [] else ["::thiserror::Error"]

/-- The declarations for a variant with a source. -/
def sourceDeclarations (name : String) (v : ErrorVariant) : List Declaration :=
  match v.source? with
  | none => []
  | some f =>
    [.fromSource name v.conditions f ⟨v.name, [(f.name, .same), (contextName, .nothing)]⟩,
      .contextOfSource name v.conditions f
        ⟨v.name, [(f.name, .same), (contextName, .someContext)]⟩]

/-- The declarations for the variant for errors without a source. -/
def internalDeclarations (name : String) (v : ErrorVariant) : List Declaration :=
  [false, true].map fun owned ↦
    .fromMessage name v.conditions owned
      ⟨internalName, [("message", .message owned), (contextName, .nothing)]⟩

/-- The declarations of an enumeration whose variants have been looked at. -/
def declarations (e : Enumeration) (variants : List ErrorVariant) : List Declaration :=
  [.definition (missingDerivations e) e, .contextTrait e.name,
    .contextOfError e.name ((variants.filter (·.hasContext)).map fun v ↦ (v.conditions, v.name))] ++
  (variants.filter (!·.isInternal)).flatMap (sourceDeclarations e.name) ++
  ((variants.find? (·.isInternal)).map (internalDeclarations e.name)).getD [] ++ [.formatter]

/-- Expands an item. -/
def expand (item : Item) : Except Refusal (List Declaration) :=
  match item with
  | .other => .error .notEnumeration
  | .enumeration e => do
    let variants ← e.variants.mapM inspect
    if variants.any fun v ↦ v.source?.isSome && !v.hasContext then .error .missingContext
    else .ok (declarations e variants)

end Responsive.ErrorEnum

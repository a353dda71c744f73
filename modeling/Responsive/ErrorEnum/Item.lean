import Responsive.ErrorEnum.Discriminant

/-!
# Items

The declaration of an enumeration as its attributes, its name and its variants with their fields,
read from tokens; of any other item only the kind is kept. What the library does not look into stays
a list of tokens, in which arguments and parameters are brought into canonical order.
-/

set_option autoImplicit false
set_option relaxedAutoImplicit false

namespace Responsive.ErrorEnum

/-- An attribute, without its hash and brackets. -/
structure Attribute where
  tokens : List Token
deriving Repr

namespace Attribute

/-- The name of an attribute, if that is a single word. -/
def name? (a : Attribute) : Option String :=
  match a.tokens with
  | .word _ :: .punct ":" :: _ => none
  | .word w :: _ => some w
  | _ => none

/-- Whether the attribute has that name. -/
def isNamed (a : Attribute) (name : String) : Bool :=
  a.name? == some name

/-- The text of an attribute. -/
def text (a : Attribute) : String :=
  "#[" ++ Token.texts a.tokens ++ "]"

end Attribute

/-- A named field. -/
structure Field where
  attributes : List Attribute
  name : String
  type : List Token
deriving Repr

/-- The form of a variant. -/
inductive Shape
  | named (fields : List Field)
  /-- Fields without names, or no fields. -/
  | unnamed
deriving Repr

/-- A variant of an enumeration. -/
structure Variant where
  attributes : List Attribute
  name : String
  shape : Shape
  /-- Everything from the name on, in canonical order. -/
  tokens : List Token
deriving Repr

/-- An enumeration. -/
structure Enumeration where
  attributes : List Attribute
  visibility : List Token
  name : String
  /-- What stands between the name and the variants, in canonical order. -/
  parameters : List Token
  variants : List Variant
  /-- Whether a comma follows the last variant. -/
  endsInComma : Bool
deriving Repr

/-- An item. -/
inductive Item
  | enumeration (e : Enumeration)
  | other
deriving Repr

/-! ### Reading items -/

/-- Reads attributes off the front of tokens. -/
def attributes : List Token → List Attribute × List Token
  | .punct "#" :: .group .bracket inner :: rest =>
    let (found, rest) := attributes rest
    (⟨inner⟩ :: found, rest)
  | rest => ([], rest)

/-- Whether the inside of a group restricts a visibility. -/
def restricts (inner : List Token) : Bool :=
  match inner with
  | .word w :: _ => ["crate", "self", "super", "in"].contains w
  | _ => false

/-- Reads a visibility off the front of tokens. -/
def visibility : List Token → List Token × List Token
  | .word "pub" :: .group .paren inner :: rest =>
    if restricts inner then ([.word "pub", .group .paren inner], rest)
    else ([.word "pub"], .group .paren inner :: rest)
  | .word "pub" :: rest => ([.word "pub"], rest)
  | rest => ([], rest)

/-- Reads a named field. -/
def field? (tokens : List Token) : Option Field :=
  let (attributes, rest) := attributes tokens
  match (visibility rest).2 with
  | .word name :: .punct ":" :: type => some { attributes, name, type }
  | _ => none

/-- Reads the form of a variant from what stands behind its name. -/
def shape? : List Token → Option Shape
  | .group .brace inner :: _ => ((pieces 0 inner).mapM field?).map .named
  | _ => some .unnamed

/-- What stands behind the name of a variant, in canonical order. -/
def canonicalBody : List Token → List Token
  | .group d inner :: rest => .group d (ordered inner) :: ordered rest
  | rest => ordered rest

/-- Reads a variant. -/
def variant? (tokens : List Token) : Option Variant :=
  let (attributes, rest) := attributes tokens
  match (visibility rest).2 with
  | .word name :: rest =>
    (shape? rest).map fun shape ↦
      { attributes, name, shape, tokens := .word name :: canonicalBody rest }
  | _ => none

/-- Whether a token ends a variant or leads to its discriminant. -/
def endsVariant : Token → Bool
  | .punct "," | .punct "=" => true
  | _ => false

/-- Cuts tokens behind each variant. The fuel bounds the number of variants. -/
def variantPieces : Nat → List Token → List (List Token)
  | 0, _ => []
  | fuel + 1, tokens =>
    let front := tokens.takeWhile (!endsVariant ·)
    match tokens.dropWhile (!endsVariant ·) with
    | [] => if front.isEmpty then [] else [front]
    | .punct "=" :: rest =>
      let (discriminant, behind) := cutExpression rest
      (front ++ .punct "=" :: discriminant) :: variantPieces fuel (behind.drop 1)
    | _ :: rest => front :: variantPieces fuel rest

/-- Whether tokens ask for nothing behind a colon. -/
def isBareColon : List Token → Bool
  | [.punct ":"] | .punct ":" :: .punct "=" :: _ => true
  | _ => false

/-- A parameter without a colon behind which nothing is asked for. -/
def withoutBareColon : List Token → List Token
  | [] => []
  | t :: rest =>
    if isBareColon (t :: rest) then rest
    else
      match t, rest with
      | .punct "#", .group d inner :: rest => .punct "#" :: .group d inner :: withoutBareColon rest
      | t, [] => [t]
      | t, next :: rest => if isBareColon (next :: rest) then t :: rest else t :: next :: rest

/-- The parameters of an enumeration and the conditions on them, in canonical order. Brackets with
nothing in them are left out, and so are conditions of which there are none. -/
def canonicalParameters (tokens : List Token) : List Token :=
  let (parameters, conditions) := match tokens with
    | .punct "<" :: rest => (angle? 0 rest).getD ([], rest)
    | rest => ([], rest)
  let found := (Argument.ofTokens parameters).map fun a ↦
    { a with tokens := ordered (withoutBareColon a.tokens) }
  (if found.isEmpty then [] else .punct "<" :: Argument.canonicalOrder found ++ [.punct ">"]) ++
    if conditions.length ≤ 1 then [] else ordered conditions

/-- Reads an enumeration behind its keyword. -/
def enumeration? (attributes : List Attribute) (visibility tokens : List Token) :
    Option Enumeration :=
  match tokens, tokens.getLast? with
  | .word name :: rest, some (.group .brace inner) =>
    ((variantPieces inner.length inner).mapM variant?).map fun variants ↦
      { attributes, visibility, name, parameters := canonicalParameters rest.dropLast, variants
        endsInComma := inner.getLast?.any isComma }
  | _, _ => none

/-- Reads an item. -/
def Item.ofTokens? (tokens : List Token) : Option Item :=
  let (attributes, rest) := attributes tokens
  let (visibility, rest) := visibility rest
  match rest with
  | .word "enum" :: rest => (enumeration? attributes visibility rest).map .enumeration
  | .word "struct" :: _ | .word "union" :: _ => some .other
  | _ => none

/-- Reads an item from its text. -/
def Item.ofText? (s : String) : Option Item := do
  Item.ofTokens? (← tokens? s)

end Responsive.ErrorEnum

import Responsive.ErrorEnum.Expansion

/-!
# Texts of expansions

The declarations of an expansion as source text. `Declaration.dense` is the text without any white
space, in which two texts of the same tokens agree.
-/

set_option autoImplicit false
set_option relaxedAutoImplicit false

namespace Responsive.ErrorEnum

/-- A text in braces. -/
def braced (s : String) : String :=
  "\x7b " ++ s ++ " \x7d"

/-- The type of a text that is borrowed for the whole program or owned. -/
def textType : String := "std::borrow::Cow<'static, str>"

/-- A constructor for a borrowed or an owned text. -/
def textMaker (owned : Bool) (value : String) : String :=
  "std::borrow::Cow::" ++ (if owned then "Owned(" else "Borrowed(") ++ value ++ ")"

/-- Attributes, one after the other. -/
def attributeTexts (l : List Attribute) : String :=
  " ".intercalate (l.map Attribute.text)

/-- A field of a constructor. -/
def fillingText (name : String) : Filling → String
  | .same => name
  | .nothing => name ++ ": None"
  | .someContext => name ++ ": Some(context.into())"
  | .message owned => name ++ ": " ++ textMaker owned "message"

/-- A constructor. -/
def Construction.text (owner : String) (c : Construction) : String :=
  owner ++ "::" ++ c.variant ++ " " ++
    braced (", ".intercalate (c.fields.map fun f ↦ fillingText f.1 f.2))

/-- The enumeration as it was declared. -/
def Enumeration.text (e : Enumeration) : String :=
  let variants := e.variants.map fun v ↦ attributeTexts v.attributes ++ " " ++ Token.texts v.tokens
  attributeTexts e.attributes ++ " " ++ Token.texts e.visibility ++ "enum " ++ e.name ++ " " ++
    Token.texts e.parameters ++
    braced (", ".intercalate variants ++ if e.endsInComma then "," else "")

/-- An attribute that brings in derivations. -/
def derivationText (names : List String) : String :=
  if names.isEmpty then "" else "#[derive(" ++ ", ".intercalate names ++ ")]"

/-- The head of a function that adds a context. -/
def contextHead (result : String) : String :=
  "fn context(self, context: impl Into<" ++ textType ++ ">) -> " ++ result

/-- The arm of a match that changes the context of a variant. -/
def armText (name : String) (arm : List Attribute × String) : String :=
  attributeTexts arm.1 ++ " " ++ name ++ "::" ++ arm.2 ++ " " ++ braced "context: slot, .." ++
    " => *slot = Some(context.into()),"

/-- A name without the mark of a raw word. -/
def plainName (name : String) : String :=
  match name.toList with
  | 'r' :: '#' :: rest => .ofList rest
  | _ => name

/-- The name of the trait by which a context is added. -/
def traitName (name : String) : String := plainName name ++ "Ext"

namespace Declaration

/-- The text of a declaration. -/
def text : Declaration → String
  | definition derived e =>
    "#[allow(non_shorthand_field_patterns)] " ++ derivationText derived ++ " " ++ e.text
  | contextTrait name =>
    "pub trait " ++ traitName name ++ "<T> " ++ braced (contextHead s!"Result<T, {name}>" ++ ";")
  | contextOfError name arms =>
    "#[automatically_derived] impl<T> " ++ traitName name ++ "<T> for Result<T, " ++ name ++ "> " ++
      braced ("#[inline] " ++ contextHead "Self" ++ " " ++
        braced ("self.map_err(|mut err| " ++
          braced ("match &mut err " ++
            braced (" ".intercalate (arms.map (armText name)) ++ " _ => " ++ braced "") ++
            " err") ++ ")"))
  | fromSource name conditions source made =>
    let type := Token.texts (ordered source.type)
    attributeTexts conditions ++ " #[automatically_derived] impl From<" ++ type ++ "> for " ++
      name ++ " " ++
      braced ("#[inline] fn from(" ++ source.name ++ ": " ++ type ++ ") -> Self " ++
        braced (made.text "Self"))
  | contextOfSource name conditions source made =>
    let type := Token.texts (ordered source.type)
    attributeTexts conditions ++ " impl<T> " ++ traitName name ++
      "<T> for std::result::Result<T, " ++ type ++ "> " ++
      braced ("#[inline] " ++ contextHead s!"std::result::Result<T, {name}>" ++ " " ++
        braced ("self.map_err(|" ++ source.name ++ "| " ++ made.text name ++ ")"))
  | fromMessage name conditions owned made =>
    let type := if owned then "String" else "&'static str"
    attributeTexts conditions ++ " impl From<" ++ type ++ "> for " ++ name ++ " " ++
      braced ("#[inline] fn from(message: " ++ type ++ ") -> Self " ++ braced (made.text "Self"))
  | formatter =>
    "#[allow(dead_code)] fn format_context(context: &Option<" ++ textType ++ ">) -> " ++ textType ++
      " " ++
      braced ("context.as_ref().map_or(" ++ textMaker false "\"\"" ++ ", |c| " ++
        textMaker true "format!(\" (\x7bc\x7d)\")" ++ ")")

/-- The text of a declaration without any white space. -/
def dense (d : Declaration) : String :=
  .ofList (d.text.toList.filter (!Text.isBlank ·))

end Declaration

end Responsive.ErrorEnum

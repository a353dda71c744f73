import Responsive.Breakpoints
import Responsive.Json.Decode
import Responsive.TierSet.Text

/-!
# Breakpoints in JSON documents

How tiers, sets of tiers and breakpoint pairs are read and written. A stored width may be a string
or a number: an integer that fits 64 signed bits is taken as its decimal text, any other number as
the shortest decimal of the nearest float, and `null` as no width.
-/

set_option autoImplicit false
set_option relaxedAutoImplicit false

namespace Responsive

open Json

/-- Reads a tier: its name, or an object of that name with the value `null`. -/
def Tier.decoder : Decoder Tier := fun place outline ↦
  let variant (name : String) : Except DecodeError Tier :=
    match ofName? name with
    | some t => .ok t
    | none => .error (.unknownVariant name (all.map Tier.name))
  match outline with
  | .text (some name) => variant name
  | .object ((key, value) :: rest) closed =>
    if !place.hasRoom then .error .malformed
    else
      match key with
      | .text (some name) => do
        let t ← variant name
        match value with
        | .null => if rest.isEmpty && closed then .ok t else .error .malformed
        | value => mismatch "unit" value
      | key => mismatch "variant identifier" key
  | _ => .error .malformed

/-- The text of a set of tiers, as a decoder expects it. -/
def TierSet.expected : String :=
  "a string value of " ++ DecodeError.tick "|" ++ " separated flags"

/-- Reads a set of tiers from its text. -/
def TierSet.decoder : Decoder TierSet := fun place outline ↦ do
  let s ← Decoder.string expected place outline
  match read s with
  | .ok set => .ok set
  | .error e => .error (.invalid e.message)

namespace Breakpoints

/-- The least integer that is not read as such. -/
def integerLimit : Int := Nat.pow 2 63

/-- The text of a stored number. -/
def numberText : Json.Number → String
  | .int n =>
    if -integerLimit ≤ n ∧ n < integerLimit then .ofList (Text.decimal n)
    else .ofList (Binary64.ofInt n).plainText
  | .float x => .ofList x.plainText

/-- The text of a stored width, if it is a width at all. -/
def widthText? : Json → Option String
  | .null => some ""
  | .text s => some s
  | .number n => some (numberText n)
  | _ => none

/-- Reads a width. -/
def widthDecoder : Decoder String := fun place outline ↦ do
  let value ← Decoder.any place outline
  match widthText? value with
  | some s => .ok s
  | none => .error (.invalid "data did not match any variant of untagged enum Raw")

/-- The field of a tier. -/
def field (t : Tier) : Json.Field Breakpoints :=
  .of t.name widthDecoder fun value b ↦ b.set t value

/-- Reads a pair. -/
def decoder : Decoder Breakpoints :=
  Decoder.record "Breakpoints" (Tier.all.map field) {}

/-- A pair as a value. -/
def toJson (b : Breakpoints) : Json :=
  .ofPairs (Tier.all.map fun t ↦ (t.name, .text (b.get t)))

/-- The pair stored in a value. -/
def ofJson (value : Json) : Except DecodeError Breakpoints :=
  decodeValue decoder value

end Breakpoints

/-- One line of JSON: both values and the customized tiers. -/
def Resolved.serialized (r : Resolved) : String :=
  compactRecord <|
    Tier.all.map (fun t ↦ (t.name, .text (r.get t))) ++ [("custom", .text r.custom.text)]

end Responsive

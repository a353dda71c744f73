import Responsive.ErrorEnum.Item

/-!
# Type paths

Looking into types as far as the context field needs it: the last name of a type that is a path, and
the arguments between its angle brackets.
-/

set_option autoImplicit false
set_option relaxedAutoImplicit false

namespace Responsive.ErrorEnum

/-- The end of a type path: its last name, and the arguments if it has angle brackets. -/
structure PathEnd where
  name : String
  arguments : Option (List (List Token))
deriving Repr

/-- Continues behind the opening angle bracket of a segment: its arguments are those of the path if
nothing follows them, and otherwise the path goes on behind two colons. -/
def behindAngle? (next : List Token → Option PathEnd) (name : String) (tokens : List Token) :
    Option PathEnd :=
  match angle? 0 tokens with
  | some (inner, []) => some ⟨name, some (pieces 0 inner)⟩
  | some (_, .punct ":" :: .punct ":" :: rest) => next rest
  | _ => none

/-- Reads the segments of a path to the end of the tokens; the fuel bounds their number. -/
def segments? : Nat → List Token → Option PathEnd
  | fuel + 1, .word w :: rest =>
    match rest with
    | [] | [.group .paren _] => some ⟨w, none⟩
    | .punct "<" :: rest => behindAngle? (segments? fuel) w rest
    | .punct ":" :: .punct ":" :: .punct "<" :: rest => behindAngle? (segments? fuel) w rest
    | .punct ":" :: .punct ":" :: rest => segments? fuel rest
    | _ => none
  | _, _ => none

/-- The end of a type that is a path. A path may begin with two colons, or with a type in angle
brackets. -/
def pathEnd? (tokens : List Token) : Option PathEnd :=
  match tokens with
  | .punct ":" :: .punct ":" :: rest => segments? rest.length rest
  | .punct "<" :: rest =>
    match angle? 0 rest with
    | some (_, .punct ":" :: .punct ":" :: rest) => segments? rest.length rest
    | _ => none
  | rest => segments? rest.length rest

/-- The first argument of a type whose last name is the given one. -/
def argumentOf? (name : String) (tokens : List Token) : Option (List Token) :=
  match pathEnd? tokens with
  | some ⟨found, some (argument :: _)⟩ => if found = name then some argument else none
  | _ => none

/-- Whether tokens are the lifetime of the whole program. -/
def isStatic : List Token → Bool
  | [.lifetime "static"] => true
  | _ => false

/-- Whether a type may hold the context of an error: an optional text that is either borrowed for
the whole program or owned. -/
def isContextType (type : List Token) : Bool :=
  match (argumentOf? "Option" type).bind pathEnd? with
  | some ⟨"Cow", some (lifetime :: target :: _)⟩ =>
    isStatic lifetime && (pathEnd? target).any (·.name == "str")
  | _ => false

end Responsive.ErrorEnum

/-!
# Errors in layers

An error says what went wrong and, in parentheses, what was being done. An error that another one
caused names its own kind and then the whole text of the cause, so the text of an error is the list
of its layers from the outside in.
-/

set_option autoImplicit false
set_option relaxedAutoImplicit false

namespace Responsive

/-- A cause with an optional remark on what was being done. -/
structure Layered (κ : Type) where
  cause : κ
  context : Option String := none
deriving DecidableEq, Repr

namespace Layered

variable {κ : Type}

/-- The error with another remark in place of the one it had. -/
def withContext (e : Layered κ) (context : String) : Layered κ :=
  { e with context := some context }

/-- A remark inside the text of a layer. -/
def contextText : Option String → String
  | none => ""
  | some context => " (" ++ context ++ ")"

/-- The text of one layer: what kind of error it is, the remark, and the detail. -/
def layerText (title : String) (context : Option String) (detail : String) : String :=
  title ++ contextText context ++ ": " ++ detail

@[simp] theorem cause_withContext (e : Layered κ) (context : String) :
    (e.withContext context).cause = e.cause := rfl

@[simp] theorem context_withContext (e : Layered κ) (context : String) :
    (e.withContext context).context = some context := rfl

end Layered

end Responsive

import Responsive.Breakpoints.Document
import Responsive.Delivery.Error
import Responsive.Resolver
import Responsive.Settings.Store

/-!
# Stored overrides

The record in which a site keeps its own widths, and the store as a source of overrides.
-/

set_option autoImplicit false
set_option relaxedAutoImplicit false

namespace Responsive

/-- The name of the record. -/
def overridesName : String := "dynamic_breakpoints"

/-- The definition of the record: a string for each tier, empty for none. -/
def overridesDefinition : Definition where
  name := overridesName
  description := "Custom dynamic breakpoints"
  properties := Tier.all.map fun t ↦ (t.name, .string)
  default := Breakpoints.toJson {}

namespace Store

/-- Defines the record, unless it is defined already. -/
def registerOverrides (store : Store) : Except BreakpointError Store :=
  if store.isRegistered overridesName then .ok store
  else
    match store.register overridesDefinition with
    | .ok store => .ok store
    | .error e =>
      .error
        { cause := .settings e, context := some "Failed to register breakpoint settings" }

/-- The pair that the store holds as overrides. -/
def overrides? (store : Store) : Except SettingsError (Option Breakpoints) :=
  store.get? Breakpoints.decoder overridesName

/-- The store as a source of overrides: a record that is no pair counts as unreadable. -/
def stored (store : Store) : Stored :=
  match store.overrides? with
  | .ok (some b) => .pair b
  | .ok none => .nothing
  | .error _ => .unreadable

/-- Stores a pair as overrides. -/
def saveOverrides {m : Type → Type} [Monad m] (fs : FileSystem m) (b : Breakpoints) :
    ExceptT BreakpointError (StateT Store m) Unit :=
  ExceptT.adapt (fun e ↦ { cause := .settings e, context := some "Failed to save breakpoints" })
    (Store.set fs overridesName b.toJson)

end Store

end Responsive

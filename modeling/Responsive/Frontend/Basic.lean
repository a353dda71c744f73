import Responsive.Delivery.Basic
import Responsive.Fonts.Collector
import Responsive.Frontend.Error
import Responsive.Settings.Overrides

/-!
# The frontend

A frontend ties the settings store, the resolution of breakpoints, the delivery of stylesheets and
the collection of fonts together. It serves requests: all output of one request is made with the
pair that was in force when the request first needed it, whatever is stored in the meantime.
-/

set_option autoImplicit false
set_option relaxedAutoImplicit false

namespace Responsive

open Fonts

/-- The parts of a frontend that its requests use and do not change. -/
structure Site where
  hooks : DefaultHooks := ∅
  delivery : Delivery := {}
  fonts : Registry := {}

/-- A site with its configuration and its store. -/
structure Frontend where
  config : Config := {}
  store : Store := {}
  site : Site := {}

/-- The capabilities that the library is built with. -/
def features : List String :=
  ["breakpoints", "fonts"]

namespace Frontend

/-- The name of the hook that brings in the configured default widths. -/
def configHookName : String := "config-defaults"

/-- The hook that brings in the configured default widths. -/
def configHook (defaults : Breakpoints) : Filter Breakpoints Unit where
  priority := defaultPriority
  name := configHookName
  run _ b := defaults.orElse b

/-- The hooks of a configuration: none if it sets no default width. -/
def configHooks (config : Config) : DefaultHooks :=
  let defaults := config.breakpoints.defaults
  if defaults.setTiers.isEmpty then ∅ else FilterChain.add ∅ (configHook defaults)

variable {m : Type → Type} [Monad m]

/-- A frontend over a given store. -/
def withStore (fs : FileSystem m) (config : Config) (store : Store) :
    m (Except FrontendError Frontend) := do
  match store.registerOverrides with
  | .error e =>
    return .error { cause := .breakpoints e, context := some "Failed to register settings" }
  | .ok store =>
    match ← Delivery.ofConfig fs config .standard with
    | .error e =>
      return .error
        { cause := .breakpoints e, context := some "Failed to prepare stylesheet delivery" }
    | .ok delivery =>
      return .ok
        { config, store
          site := { hooks := configHooks config, delivery, fonts := { config := config.fonts } } }

/-- A frontend over the document that the configuration names. -/
def ofConfig (fs : FileSystem m) (process : String) (config : Config) :
    m (Except FrontendError Frontend) := do
  match ← Store.openDocument fs process config.settings.path config.settings.create with
  | .error e =>
    return .error { cause := .settings e, context := some "Failed to open settings store" }
  | .ok store => withStore fs config store

/-- The overrides as a source for requests. -/
def stored (frontend : Frontend) : Stored :=
  frontend.store.stored

/-- Stores a pair as overrides. -/
def saveBreakpoints (fs : FileSystem m) (b : Breakpoints) :
    ExceptT FrontendError (StateT Frontend m) Unit := ExceptT.mk do
  let frontend ← get
  let (result, store) ← ((Store.saveOverrides fs b).run.run frontend.store : m _)
  set { frontend with store }
  return result.mapError fun e ↦ { cause := .breakpoints e }

end Frontend

/-- The state of one request: its resolution and the fonts met so far. -/
structure Request where
  scope : Scope := {}
  fonts : Collector := {}
deriving DecidableEq, Repr, Inhabited

/-- A rendered fragment, and whether the filter changed it. -/
structure Fragment where
  content : String
  changed : Bool
deriving DecidableEq, Repr

namespace Request

variable {m : Type → Type} [Monad m]

/-- The pair of the request. -/
def breakpoints (site : Site) (load : m Stored) : StateT Request m Resolved := do
  let request ← get
  let (r, scope) ← (Scope.get site.hooks load).run request.scope
  set { request with scope }
  return r

theorem run_breakpoints [LawfulMonad m] {site : Site} {load : m Stored} {request : Request} :
    (breakpoints site load).run request =
      match request.scope.resolved with
      | some r => pure (r, request)
      | none =>
        (fun stored ↦
          let r := site.hooks.resolve stored
          (r, { request with scope := { resolved := some r } })) <$> load := by
  simp only [breakpoints, StateT.run_bind, StateT.run_get, pure_bind, StateT.run_monadLift,
    monadLift_self, bind_assoc, Scope.run_get]
  cases hresolved : request.scope.resolved with
  | some r => simp
  | none => simp

/-- Whether any tier is customized in the pair of the request. -/
def hasCustom (site : Site) (load : m Stored) : StateT Request m Bool :=
  return (← breakpoints site load).hasCustom

/-- Filters a text with the pair of the request. -/
def adjustCss (site : Site) (load : m Stored) (css : String) : StateT Request m String :=
  return site.delivery.filterCss (← breakpoints site load) css

/-- How the responsive stylesheet reaches the page. -/
def pageStyle (site : Site) (load : m Stored) : StateT Request m PageStyle :=
  return site.delivery.pageStyle (← breakpoints site load)

/-- Renders a fragment: its fonts are collected, and the text is filtered if the block is in one of
the namespaces. Absent content and other blocks pass through and ask for no resolution. -/
def render (site : Site) (load : m Stored) (block : Block) (content : Option String) :
    StateT Request m (Option Fragment) := do
  modify fun request ↦ { request with fonts := request.fonts.gather site.fonts block content }
  match content with
  | none => return none
  | some content =>
    if site.delivery.concerns block then
      let filtered ← adjustCss site load content
      return some { content := filtered, changed := filtered != content }
    else return some { content, changed := false }

end Request

end Responsive

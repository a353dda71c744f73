import Responsive.Breakpoints

/-!
# Configuration

The settings of a site, in sections. Every value has a default, so an empty document is a complete
configuration.
-/

set_option autoImplicit false
set_option relaxedAutoImplicit false

namespace Responsive

/-- Where the settings document is, and whether it may be created. -/
structure SettingsConfig where
  path : String := "rebreak-settings.json"
  create : Bool := true
deriving DecidableEq, Repr

/-- The default widths of the site, and a stylesheet in place of the bundled one. -/
structure BreakpointsConfig where
  defaults : Breakpoints := {}
  stylesheet : Option String := none
deriving DecidableEq, Repr

/-- The names under which the main and the responsive stylesheet are registered. -/
structure DeliveryConfig where
  styleHandle : String := "rebreak-style"
  responsiveHandle : String := "rebreak-style-responsive"
deriving DecidableEq, Repr

/-- The beginnings of the block names whose markup is adjusted. -/
structure BlocksConfig where
  namespaces : List String := ["stackable/"]
deriving DecidableEq, Repr

/-- Which blocks are searched for fonts, and how the font stylesheet is delivered. -/
structure FontsConfig where
  enabled : Bool := true
  namespaces : List String := ["stackable/", "ugb/"]
  locale : Option String := none
  handle : String := "rebreak-google-fonts"
deriving DecidableEq, Repr

/-- What is logged, and where to. -/
structure LoggingConfig where
  level : String := "info"
  filter : Option String := none
  json : Bool := false
  dir : Option String := none
  rotation : String := "daily"
  maxFiles : Nat := 7
deriving DecidableEq, Repr

/-- The whole configuration. -/
structure Config where
  settings : SettingsConfig := {}
  breakpoints : BreakpointsConfig := {}
  delivery : DeliveryConfig := {}
  blocks : BlocksConfig := {}
  fonts : FontsConfig := {}
  logging : LoggingConfig := {}
deriving DecidableEq, Repr

instance : Inhabited Config := ⟨{}⟩

end Responsive

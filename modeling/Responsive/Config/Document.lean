import Responsive.Breakpoints.Document
import Responsive.Config

/-!
# Configuration documents

Reading a configuration from JSON, and writing it out with every value spelled.
-/

set_option autoImplicit false
set_option relaxedAutoImplicit false

namespace Responsive

open Json

/-- A string without further demands. -/
def textDecoder : Decoder String :=
  Decoder.string "a string"

/-- The name of a file or directory. -/
def pathDecoder : Decoder String :=
  Decoder.string "path string"

/-- Reads the section on the settings document. -/
def SettingsConfig.decoder : Decoder SettingsConfig :=
  Decoder.record "SettingsConfig"
    [.of "path" pathDecoder fun path c ↦ { c with path },
      .of "create" Decoder.bool fun create c ↦ { c with create }]
    {}

/-- Reads the section on widths. -/
def BreakpointsConfig.decoder : Decoder BreakpointsConfig :=
  Decoder.record "BreakpointsConfig"
    [.of "defaults" Breakpoints.decoder fun defaults c ↦ { c with defaults },
      .of "stylesheet" pathDecoder.option fun stylesheet c ↦ { c with stylesheet }]
    {}

/-- Reads the section on delivery. -/
def DeliveryConfig.decoder : Decoder DeliveryConfig :=
  Decoder.record "DeliveryConfig"
    [.of "style_handle" textDecoder fun styleHandle c ↦ { c with styleHandle },
      .of "responsive_handle" textDecoder fun responsiveHandle c ↦ { c with responsiveHandle }]
    {}

/-- Reads the section on blocks. -/
def BlocksConfig.decoder : Decoder BlocksConfig :=
  Decoder.record "BlocksConfig"
    [.of "namespaces" textDecoder.list fun namespaces c ↦ { c with namespaces }] {}

/-- Reads the section on fonts. -/
def FontsConfig.decoder : Decoder FontsConfig :=
  Decoder.record "FontsConfig"
    [.of "enabled" Decoder.bool fun enabled c ↦ { c with enabled },
      .of "namespaces" textDecoder.list fun namespaces c ↦ { c with namespaces },
      .of "locale" textDecoder.option fun locale c ↦ { c with locale },
      .of "handle" textDecoder fun handle c ↦ { c with handle }]
    {}

/-- Reads the section on logging. -/
def LoggingConfig.decoder : Decoder LoggingConfig :=
  Decoder.record "LoggingConfig"
    [.of "level" textDecoder fun level c ↦ { c with level },
      .of "filter" textDecoder.option fun filter c ↦ { c with filter },
      .of "json" Decoder.bool fun json c ↦ { c with json },
      .of "dir" pathDecoder.option fun dir c ↦ { c with dir },
      .of "rotation" textDecoder fun rotation c ↦ { c with rotation },
      .of "max_files" Decoder.word fun maxFiles c ↦ { c with maxFiles }]
    {}

/-- Reads a configuration. Its sections share one object with members of any other name. -/
def Config.decoder : Decoder Config :=
  Decoder.sharedRecord "RebreakConfig"
    [.of "settings" SettingsConfig.decoder fun settings c ↦ { c with settings },
      .of "breakpoints" BreakpointsConfig.decoder fun breakpoints c ↦ { c with breakpoints },
      .of "delivery" DeliveryConfig.decoder fun delivery c ↦ { c with delivery },
      .of "blocks" BlocksConfig.decoder fun blocks c ↦ { c with blocks },
      .of "fonts" FontsConfig.decoder fun fonts c ↦ { c with fonts },
      .of "logging" LoggingConfig.decoder fun logging c ↦ { c with logging }]
    {}

/-- A configuration with every value spelled out. -/
def Config.toJson (c : Config) : Json :=
  .ofPairs
    [("settings", .ofPairs [("path", .text c.settings.path), ("create", .bool c.settings.create)]),
      ("breakpoints", .ofPairs
        [("defaults", c.breakpoints.defaults.toJson),
          ("stylesheet", .ofOption .text c.breakpoints.stylesheet)]),
      ("delivery", .ofPairs
        [("style_handle", .text c.delivery.styleHandle),
          ("responsive_handle", .text c.delivery.responsiveHandle)]),
      ("blocks", .ofPairs [("namespaces", .texts c.blocks.namespaces)]),
      ("fonts", .ofPairs
        [("enabled", .bool c.fonts.enabled),
          ("namespaces", .texts c.fonts.namespaces),
          ("locale", .ofOption .text c.fonts.locale),
          ("handle", .text c.fonts.handle)]),
      ("logging", .ofPairs
        [("level", .text c.logging.level),
          ("filter", .ofOption .text c.logging.filter),
          ("json", .bool c.logging.json),
          ("dir", .ofOption .text c.logging.dir),
          ("rotation", .text c.logging.rotation),
          ("max_files", .nat c.logging.maxFiles)])]

end Responsive

import Responsive.Files.Basic
import Responsive.Json.Decode
import Responsive.Layered

/-!
# Errors of the settings store
-/

set_option autoImplicit false
set_option relaxedAutoImplicit false

namespace Responsive

/-- Why a settings operation failed. -/
inductive SettingsCause
  /-- There is no document, and none may be created. -/
  | notFound (path : String)
  /-- The document is JSON, but not of the right shape. -/
  | corrupted (reason : String)
  | unknownSetting (name : String)
  | alreadyRegistered (name : String)
  /-- A value does not fit the definition of its setting. -/
  | schema (reason : String)
  | io (cause : IoError)
  /-- A document or a record cannot be read. -/
  | decoding (cause : Json.DecodeError)
deriving DecidableEq, Repr

/-- An error of the settings store. -/
abbrev SettingsError := Layered SettingsCause

namespace SettingsCause

/-- What kind of error a cause makes. -/
def title : SettingsCause → String
  | notFound _ => "Settings document not found"
  | corrupted _ => "Settings document is corrupted"
  | unknownSetting _ => "Setting is not registered"
  | alreadyRegistered _ => "Setting is already registered"
  | schema _ => "Setting value does not match its schema"
  | io _ => "Settings I/O failure"
  | decoding _ => "Settings serialization failure"

/-- The detail of a cause. -/
def detail : SettingsCause → String
  | notFound s | corrupted s | unknownSetting s | alreadyRegistered s | schema s => s
  | io e => e.message
  | decoding e => e.message

/-- The texts of the errors below this one. -/
def sources : SettingsCause → List String
  | io e => [e.message]
  | decoding e => [e.message]
  | _ => []

end SettingsCause

namespace SettingsError

/-- The text of an error. -/
def message (e : SettingsError) : String :=
  Layered.layerText e.cause.title e.context e.cause.detail

/-- The texts of the errors below this one. -/
def sources (e : SettingsError) : List String :=
  e.cause.sources

end SettingsError

end Responsive

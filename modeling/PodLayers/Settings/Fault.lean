import PodLayers.Settings.Setting

/-!
# Why settings cannot be loaded
-/

namespace PodLayers

inductive SettingsFault
  /-- The settings file is not well formed. -/
  | unreadable (file : String)
  /-- A setting does not fit its field. -/
  | misfit (fault : Fault Setting) (source : Source)
  /-- A failure told by someone else. -/
  | told (text : String)

namespace SettingsFault

def causeMessage : Cause Setting → String
  | .wrongType found expected => "invalid type: found " ++ found.description ++ ", expected " ++ expected
  | .wrongValue found expected => "invalid value " ++ found.description ++ ", expected " ++ expected
  | .unknownField name known =>
    "unknown field: found " ++ Text.ticked name ++ ", expected " ++ Text.ticked (Text.oneOf known)
  | .unknownVariant name known =>
    "unknown variant: found " ++ Text.ticked name ++ ", expected " ++ Text.ticked (Text.oneOf known)
  | .missingField name => "missing field " ++ Text.ticked name
  | .tooShort count title fields =>
    "invalid length " ++ toString count ++ ", expected struct " ++ title ++ " with " ++ toString fields
      ++ " elements"
  | .tooLong count => "invalid length " ++ toString count
  | .notOneVariant found => "invalid type: found " ++ found.description ++ ", expected enum"
  | .rejected detail => detail

/-- How the names of environment variables that are settings begin. -/
def variableStem : String := "POD_COMPOSER_"

/-- The key of a setting as its source writes it. -/
def keyIn : Source → List String → String
  | .environment, path => String.intercalate "." (path.map String.toUpper)
  | _, path => String.intercalate "." ("default" :: path)

def sourceName : Source → String
  | .defaults => "the defaults"
  | .file name => name ++ " TOML file"
  | .environment => Text.ticked variableStem ++ " environment variable(s)"

def message : SettingsFault → String
  | .unreadable file => file ++ " is not well formed"
  | .misfit fault source =>
    let place :=
      if fault.path.isEmpty then "" else " for key " ++ Text.quoted (keyIn source fault.path)
    causeMessage fault.cause ++ place ++ " in " ++ sourceName source
  | .told text => text

end SettingsFault

end PodLayers

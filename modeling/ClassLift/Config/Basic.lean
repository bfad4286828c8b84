import ClassLift.Config.Field

/-!
# Configuration

A configuration groups the conversion options, how generated trees are written,
and the callee of class-definition calls. Unknown settings are ignored.
-/

namespace ClassLift

namespace Options

/-- The options that the fields of a group give. -/
def ofFields (fields : List (String × SettingValue)) : Checked Options :=
  let given {α : Type} (key : String) (fallback : α) (check : SettingValue → Checked α) :
      Checked α :=
    Checked.field fields key fallback check
  (Checked.apply (Checked.apply (Checked.apply (Checked.apply
    (Options.mk <$> given "constructor_name" default.constructorName SettingValue.checkText)
    (given "extended" default.extended SettingValue.checkTruth))
    (given "extended_namespace" default.extendedNamespace SettingValue.checkOptionalText))
    (given "target" default.target SettingValue.checkTarget))
    (given "root_object" default.rootObject SettingValue.checkText))

end Options

/-- How generated trees are written. -/
structure OutputSettings where
  indent : Bool
  stripLocations : Bool
deriving DecidableEq

namespace OutputSettings

def default : OutputSettings where
  indent := true
  stripLocations := true

def ofFields (fields : List (String × SettingValue)) : Checked OutputSettings :=
  Checked.apply
    (OutputSettings.mk <$> Checked.field fields "indent" default.indent SettingValue.checkTruth)
    (Checked.field fields "strip_locations" default.stripLocations SettingValue.checkTruth)

end OutputSettings

structure Config where
  conversion : Options
  output : OutputSettings
  callee : String
deriving DecidableEq

namespace Config

def default : Config where
  conversion := .default
  output := .default
  callee := "$.Class"

/-- A value that should be a group of settings. -/
def checkGroup {α : Type} (group : SettingsGroup)
    (read : List (String × SettingValue) → Checked α) : SettingValue → Checked α
  | .group fields => read fields
  | _ => SettingValue.refuse (.notAGroup group)

/-- The configuration that the fields of a group give. -/
def ofFields (fields : List (String × SettingValue)) : Checked Config :=
  Checked.apply (Checked.apply
    (Config.mk <$> Checked.field fields "conversion" default.conversion
      (checkGroup .conversion Options.ofFields))
    (Checked.field fields "output" default.output (checkGroup .output OutputSettings.ofFields)))
    (Checked.field fields "callee" default.callee SettingValue.checkText)

end Config

end ClassLift

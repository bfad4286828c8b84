import ClassLift.Config.Setting
import ClassLift.Options

/-!
# Checked fields

The fields of a group of settings may hold anything. Each field is checked on its
own, and all faults of a group are reported together, in the order in which the
fields are declared. Bytes can stand for the text they spell.
-/

namespace ClassLift

/-- The group of settings that a field should have held. -/
inductive SettingsGroup where
  | conversion
  | output
deriving DecidableEq

def SettingsGroup.name : SettingsGroup → String
  | .conversion => "ConversionOptions"
  | .output => "OutputConfig"

/-- What is wrong with a field. -/
inductive FieldFault where
  | notText
  /-- A text with characters that cannot be written, or bytes that spell no text. -/
  | brokenText
  | notTruth
  | unreadableTruth
  | notATarget
  | notAGroup (group : SettingsGroup)
deriving DecidableEq

namespace FieldFault

/-- The short name of a fault. -/
def label : FieldFault → String
  | .notText => "string_type"
  | .brokenText => "string_unicode"
  | .notTruth => "bool_type"
  | .unreadableTruth => "bool_parsing"
  | .notATarget => "enum"
  | .notAGroup _ => "model_type"

def message : FieldFault → String
  | .notText => "Input should be a valid string"
  | .brokenText =>
      "Input should be a valid string, unable to parse raw data as a unicode string"
  | .notTruth => "Input should be a valid boolean"
  | .unreadableTruth => "Input should be a valid boolean, unable to interpret input"
  | .notATarget => "Input should be 'es2015' or 'es2017'"
  | .notAGroup group =>
      "Input should be a valid dictionary or instance of " ++ group.name

end FieldFault

/-- A fault and the field where it was found, given by the keys that lead to it. -/
structure FieldError where
  location : List String
  fault : FieldFault
deriving DecidableEq

/-- A checked value, or everything that is wrong with it. -/
abbrev Checked (α : Type) := Except (List FieldError) α

namespace Checked

variable {α β : Type}

/-- Combines two checks; the faults of both are kept, in order. -/
def apply (function : Checked (α → β)) (argument : Checked α) : Checked β :=
  match function, argument with
  | .ok function, .ok argument => .ok (function argument)
  | .error faults, .ok _ => .error faults
  | .ok _, .error faults => .error faults
  | .error first, .error second => .error (first ++ second)

/-- Puts a key in front of the location of every fault. -/
def below (key : String) (checked : Checked α) : Checked α :=
  checked.mapError (·.map fun error => { error with location := key :: error.location })

/-- Checks the value of a key, or takes the given one if the key is not there. -/
def field (fields : List (String × SettingValue)) (key : String) (fallback : α)
    (check : SettingValue → Checked α) : Checked α :=
  match fields.lookup key with
  | some value => (check value).below key
  | none => .ok fallback

end Checked

/-- The words that are read as a truth value, in any case. -/
def truthWords : List (String × Bool) :=
  [("0", false), ("off", false), ("f", false), ("false", false), ("n", false), ("no", false),
   ("1", true), ("on", true), ("t", true), ("true", true), ("y", true), ("yes", true)]

namespace SettingValue

def refuse {α : Type} (fault : FieldFault) : Checked α :=
  .error [⟨[], fault⟩]

/-- The text that bytes spell. -/
def textOfBytes? (bytes : List UInt8) : Option String :=
  String.fromUTF8? ⟨bytes.toArray⟩

def checkText : SettingValue → Checked String
  | .text value => .ok value
  | .brokenText => refuse .brokenText
  | .bytes value =>
      match textOfBytes? value with
      | some spelled => .ok spelled
      | none => refuse .brokenText
  | _ => refuse .notText

/-- Text or nothing. -/
def checkOptionalText : SettingValue → Checked (Option String)
  | .nothing => .ok none
  | value => some <$> value.checkText

/-- A whole number counts as a truth value if it is zero or one. -/
def truthOfInt (value : Int) : Checked Bool :=
  if value = 0 then .ok false
  else if value = 1 then .ok true
  else if -(Nat.pow 2 63) ≤ value ∧ value < Nat.pow 2 63 then refuse .unreadableTruth
  else refuse .notTruth

def truthOfText (text : String) : Checked Bool :=
  match truthWords.lookup text.toLower with
  | some value => .ok value
  | none => refuse .unreadableTruth

def checkTruth : SettingValue → Checked Bool
  | .truth value => .ok value
  | .whole value => truthOfInt value
  | .number value =>
      match value.whole? with
      | some integer =>
          if -(Nat.pow 2 63) < integer ∧ integer < Nat.pow 2 63 then truthOfInt integer
          else refuse .notTruth
      | none => refuse .notTruth
  | .text value => truthOfText value
  | .brokenText => refuse .brokenText
  | .bytes value =>
      match textOfBytes? value with
      | some spelled => truthOfText spelled
      | none => refuse .unreadableTruth
  | _ => refuse .notTruth

def targetOfText (tag : String) : Checked Target :=
  match Target.ofTag? tag with
  | some target => .ok target
  | none => refuse .notATarget

def checkTarget : SettingValue → Checked Target
  | .text tag => targetOfText tag
  | .brokenText => refuse .brokenText
  | .bytes value =>
      match textOfBytes? value with
      | some tag => targetOfText tag
      | none => refuse .notATarget
  | _ => refuse .notATarget

end SettingValue

end ClassLift

import ClassLift.Json.Basic
import ClassLift.Yaml.Document

/-!
# Values of settings

A setting is given by a tree, or by a value of a configuration file. Those files
can hold more kinds of values than a tree: bytes, which may spell a text, and
texts that are broken. What no setting can be is not kept.
-/

namespace ClassLift

/-- What a setting is given as. -/
inductive SettingValue where
  | nothing
  | truth (value : Bool)
  | whole (value : Int)
  | number (value : Binary64)
  | text (text : String)
  /-- A text with characters that cannot be written. -/
  | brokenText
  | bytes (bytes : List UInt8)
  | group (fields : List (String × SettingValue))
  | other
deriving Inhabited

namespace SettingValue

mutual

def ofJson : Json → SettingValue
  | .null => .nothing
  | .bool value => .truth value
  | .int value => .whole value
  | .float value => .number value
  | .str value => .text value
  | .arr _ => .other
  | .obj fields => .group (ofJsonFields fields)

/-- The settings that the fields of an object give. -/
def ofJsonFields : List (String × Json) → List (String × SettingValue)
  | [] => []
  | (key, value) :: rest => (key, ofJson value) :: ofJsonFields rest

end

def ofScalar : Yaml.Scalar → SettingValue
  | .nothing => .nothing
  | .truth value => .truth value
  | .whole value => .whole value
  | .number value => .number value
  | .moment _ => .other
  | .text value => .text value
  | .brokenText _ => .brokenText
  | .bytes value => .bytes value

/-- A value of a document with the groups in it, down to the given depth. -/
def ofDocument (document : Yaml.Document) : (depth : Nat) → Yaml.Value → SettingValue
  | _, .scalar scalar => ofScalar scalar
  | 0, .held _ => .other
  | depth + 1, value =>
      match document.holding? value with
      | some (.fields fields) =>
          .group (fields.filterMap fun (key, value) =>
            match key with
            | .scalar (.text key) => some (key, ofDocument document depth value)
            | _ => none)
      | _ => .other

end SettingValue

end ClassLift

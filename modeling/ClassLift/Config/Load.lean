import ClassLift.Config.Basic
import ClassLift.Config.Overrides
import ClassLift.Yaml.Document

/-!
# Configuration files

A configuration file is a mapping of settings. The file that is written for a
new project lists every setting with its default.
-/

namespace ClassLift.Config

/-- The outermost settings of a document, which must all have texts as names. -/
def rootFields? (document : Yaml.Document) : Option (List (String × SettingValue)) :=
  let isText : Yaml.Value → Bool
    | .scalar (.text _) | .scalar (.brokenText _) => true
    | _ => false
  match document.holding? document.root, SettingValue.ofDocument document 2 document.root with
  | some (.fields fields), .group settings =>
      if fields.all fun (key, _) => isText key then some settings else none
  | _, _ => none

/-- Reads the text of a configuration file. -/
def ofText (text : String) : Except ConfigFailure Config := do
  let document ← (Yaml.Document.ofText text).mapError .unreadable
  if document.root = .scalar .nothing then throw .empty
  match rootFields? document with
  | none => throw .notAMapping
  | some fields =>
      let config ← (ofFields fields).mapError fun errors =>
        .invalidConfig (errors.map (RefusedField.ofDocument document))
      let _ ← config.conversion.validate
      return config

/-- Reads the configuration file of the given path, if there is one. -/
def ofFile (path : String) (text? : Option String) : Except ConfigFailure Config :=
  match text? with
  | some text => ofText text
  | none => .error (.fileNotFound path)

def truthText (value : Bool) : String :=
  if value then "true" else "false"

/-- The text of a configuration file; its texts must be plain words. -/
def fileText (config : Config) : String :=
  String.join [
    "conversion:\n",
    "  constructor_name: ", config.conversion.constructorName, "\n",
    "  extended: ", truthText config.conversion.extended, "\n",
    "  extended_namespace: ", config.conversion.extendedNamespace.getD "null", "\n",
    "  target: ", config.conversion.target.tag, "\n",
    "  root_object: ", config.conversion.rootObject, "\n",
    "output:\n",
    "  indent: ", truthText config.output.indent, "\n",
    "  strip_locations: ", truthText config.output.stripLocations, "\n",
    "callee: ", config.callee, "\n"]

/-- The text of a new configuration file. -/
def template : String :=
  fileText default

end ClassLift.Config

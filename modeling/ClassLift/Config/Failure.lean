import ClassLift.Config.Field
import ClassLift.Text.Shown
import ClassLift.Yaml.Display

/-!
# Configuration failures

Why a configuration is refused, and how the user is told.
-/

namespace ClassLift

/-- A field that is refused: its fault, how its value is shown, and the word for its kind. -/
structure RefusedField where
  error : FieldError
  shown : String
  kind : String
deriving DecidableEq

namespace RefusedField

/-- A field of a document that has a fault. -/
def ofDocument (document : Yaml.Document) (error : FieldError) : RefusedField :=
  let value? := error.location.foldlM document.field? document.root
  let value := value?.getD (.scalar .nothing)
  ⟨error, document.display value, document.kindWord value⟩

/-- What the user is told about a field. -/
def text (refused : RefusedField) : String :=
  ".".intercalate refused.error.location ++ "\n  " ++ refused.error.fault.message
    ++ " [type=" ++ refused.error.fault.label
    ++ ", input_value=" ++ Text.abridged refused.shown
    ++ ", input_type=" ++ refused.kind ++ "]"

end RefusedField

inductive ConfigFailure where
  | fileNotFound (path : String)
  | unreadable (fault : Yaml.ReadFault)
  | empty
  | notAMapping
  | invalidConfig (refused : List RefusedField)
  | invalidOptions (errors : List FieldError)
  | unknownTarget (tag : String)
  | targetNotText
  | invalidExtendedNamespace (failure : Failure)
  | emptyConstructorName
deriving DecidableEq

namespace ConfigFailure

/-- The words for a failure; where fields are at fault, only the heading above them. -/
def message : ConfigFailure → String
  | .fileNotFound path => "Configuration file not found: " ++ path
  | .unreadable fault =>
      if fault.isMalformed then "Invalid YAML in configuration file" else fault.message?.getD ""
  | .empty => "Configuration file is empty"
  | .notAMapping => "Configuration validation failed:"
  | .invalidConfig _ => "Configuration validation failed:"
  | .invalidOptions _ => "Invalid conversion options:"
  | .unknownTarget tag =>
      "Invalid target '" ++ tag ++ "'. Valid targets: "
        ++ (Json.arr (Target.all.map (.str ·.tag))).display
  | .targetNotText => "Invalid target"
  | .invalidExtendedNamespace failure =>
      "Invalid extended namespace: " ++ failure.message?.getD ""
  | .emptyConstructorName => "'constructor_name' must not be empty"

/-- The faults of single fields behind a failure. -/
def fieldErrors : ConfigFailure → List FieldError
  | .invalidConfig refused => refused.map (·.error)
  | .invalidOptions errors => errors
  | _ => []

/-- All that is said about a failure. -/
def text (failure : ConfigFailure) : String :=
  failure.message
    ++ match failure with
      | .unreadable (.unknownTag tag) =>
          ": could not determine a constructor for the tag " ++ Text.quoted tag
      | .unreadable .malformed => ":"
      | .invalidConfig refused => String.join (refused.map fun field => "\n" ++ field.text)
      | _ => ""

end ConfigFailure

end ClassLift

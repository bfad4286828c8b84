import ClassLift.Config.Basic
import ClassLift.Config.Failure

/-!
# Overriding options

Options given on the command line are laid over those of a configuration. The
result is checked as a whole: the superclass must have a valid namespace, and
the constructor must have a name.
-/

namespace ClassLift

namespace Target

/--
Reads a target in any case. Only the letters of ASCII can differ in case here:
no other character has a lower-case form among those of a tag.
-/
def ofText (tag : String) : Except ConfigFailure Target :=
  match ofTag? tag.toLower with
  | some target => .ok target
  | none => .error (.unknownTarget tag)

/-- Reads a value that should be the text of a target. -/
def ofJson : Json → Except ConfigFailure Target
  | .str tag => ofText tag
  | _ => .error .targetNotText

end Target

namespace Options

/-- Checks what concerns the options as a whole. -/
def validate (options : Options) : Except ConfigFailure Options :=
  match options.extendedPath with
  | .error failure => .error (.invalidExtendedNamespace failure)
  | .ok _ =>
      if options.constructorName = "" then .error .emptyConstructorName else .ok options

end Options

/-- Values laid over given options; null leaves an option as it is. -/
structure Overrides where
  target : Json
  constructorName : Json
  extendedNamespace : Json
  extended : Json
  rootObject : Json

namespace Overrides

def none : Overrides :=
  ⟨.null, .null, .null, .null, .null⟩

/-- The checked value that was given, or the current one. -/
def override {α : Type} (given : Json) (key : String) (check : SettingValue → Checked α)
    (current : α) : Checked α :=
  if given = .null then .ok current else (check (.ofJson given)).below key

/-- Naming a superclass means extending it, unless that is given as well. -/
def extendedValue (overrides : Overrides) : Json :=
  if overrides.extended = .null ∧ overrides.extendedNamespace ≠ .null then .bool true
  else overrides.extended

/-- An empty name for the global object is no name. -/
def rootObjectValue (overrides : Overrides) : Json :=
  if overrides.rootObject.isTruthy then overrides.rootObject else .null

/-- The options with the overrides laid over them, each checked on its own. -/
def merge (overrides : Overrides) (base : Options) (target : Target) : Checked Options :=
  (Checked.apply (Checked.apply (Checked.apply
    (Options.mk <$> override overrides.constructorName "constructor_name" SettingValue.checkText
      base.constructorName)
    (override overrides.extendedValue "extended" SettingValue.checkTruth base.extended))
    (override overrides.extendedNamespace "extended_namespace" SettingValue.checkOptionalText
      base.extendedNamespace))
    (.ok target)).apply
    (override overrides.rootObjectValue "root_object" SettingValue.checkText base.rootObject)

/-- The checked options after overriding. -/
def apply (overrides : Overrides) (base : Options) : Except ConfigFailure Options := do
  let target ← if overrides.target = .null then pure base.target else Target.ofJson overrides.target
  let options ← (overrides.merge base target).mapError .invalidOptions
  options.validate

end Overrides

end ClassLift

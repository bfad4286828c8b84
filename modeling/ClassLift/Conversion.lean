import ClassLift.ClassBody.Instance
import ClassLift.ClassBody.Method
import ClassLift.ClassShell
import ClassLift.Member.Table

/-!
# Converting a class-definition call

The arguments of `$.Class(namespace, [statics,] members)` become a program: the
guards of the namespace, the constant for its root, the constant for the root of
the superclass, the class statement and the assignments of static data, in this
order.
-/

namespace ClassLift

/-- What converting one call gives. -/
structure Conversion where
  path : NamespacePath
  className : String
  warnings : List String
  statements : List Json

namespace Conversion

/-- The dotted namespace of the class. -/
def namespaceText (conversion : Conversion) : String :=
  conversion.path.dotted

def program (conversion : Conversion) : Json :=
  Node.program (.arr conversion.statements)

/-- The arguments of a call: a name, an optional table of statics and a table of members. -/
structure Arguments where
  name : Json
  statics : Option Json
  members : Json

namespace Arguments

/-- How many arguments there are. -/
def count (arguments : Arguments) : Nat :=
  if arguments.statics.isSome then 3 else 2

/-- Takes the arguments of a call apart; there must be two or three of them. -/
def ofJson (parameters : Json) : Except Failure Arguments := do
  if !parameters.isTruthy then throw .missingParameters
  let count ← parameters.length
  if count ≠ 2 ∧ count ≠ 3 then throw (.invalidArity count)
  let name ← parameters.first
  match ← parameters.elements with
  | [_, members] => return ⟨name, none, members⟩
  | [_, statics, members] => return ⟨name, some statics, members⟩
  | _ => throw (.invalidArity count)

end Arguments

/-- The namespace given by the first argument, which must be a string literal. -/
def namespaceOf (name : Json) : Except Failure Json :=
  match name with
  | .obj _ => do
      let type ← name.field "type"
      if type.isStr "Literal" then
        match ← name.field "value" with
        | .str text => return .str text
        | other => throw (.invalidNamespace other .notLiteral)
      else throw (.invalidNamespace type .notLiteral)
  | _ => .error (.invalidNamespace (.str name.kindWord) .notLiteral)

/-- The superclass of a shell, if the options ask for one. -/
def extendShell (options : Options) (shell : ClassShell) (scope : Scope) :
    Traced ClassShell.Extension := do
  if options.extended then
    let path ← options.extendedPath
    shell.extend scope path
  else return ⟨shell, scope, [], []⟩

/-- The table of statics; without that argument there are none. -/
def readStatics : Option Json → Traced MemberTable
  | some node => MemberTable.read node 2
  | none => return ⟨[], []⟩

/-- Converts the arguments of a class-definition call. -/
def ofParameters (options : Options) (parameters : Json) : Traced Conversion := do
  let arguments ← Arguments.ofJson parameters
  let dotted ← namespaceOf arguments.name
  let path ← NamespacePath.parse dotted
  let statics ← readStatics arguments.statics
  let members ← MemberTable.read arguments.members arguments.count
  let (opening, scope) ← Scope.resolve ⟨options.rootObject, []⟩ path
  let extension ← extendShell options (ClassShell.ofPath scope path) scope
  let shell := extension.shell
  let staticMembers ← StaticMembers.append statics.entries []
  let added := InstanceMembers.add options false shell.superClass.isSome members.entries
    staticMembers.body
  let _ ← added.members
  let trailing ← StaticMembers.assignments extension.scope path staticMembers.data
  let statements :=
    opening ++ extension.statements ++ [shell.statement added.body] ++ trailing
  Traced.record .info .conversion
    ("Converted '" ++ path.dotted ++ "' to class " ++ shell.name ++ ": "
      ++ toString added.body.length ++ " class member(s), "
      ++ toString statements.length ++ " statement(s)")
  return {
    path
    className := shell.name
    warnings := statics.warnings ++ members.warnings ++ extension.warnings
    statements }

end Conversion

end ClassLift

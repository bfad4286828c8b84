import ClassLift.Member.Classify
import ClassLift.Namespace.Scope
import ClassLift.Node

/-!
# Methods and static members

How the functions of a member table become methods: parameters, body and name of
the function are kept, and its flags become truth values. Static methods go into
the class body. Static data is assigned to the class after it is defined, since
older engines know no static fields.
-/

namespace ClassLift

/-- A function literal as the value of a method. -/
def Node.copiedFunction (function : Json) : Json :=
  let part (key : String) : Json := (function.field? key).getD .null
  let flag (key : String) : Json := .bool (part key).isTruthy
  Node.functionExpression (part "params") (part "body") (part "id") (flag "generator")
    (flag "async") (flag "expression")

namespace MemberEntry

/-- Getters and setters keep their kind; every other method is plain. -/
def methodKind (entry : MemberEntry) : Json :=
  if entry.isAccessor then entry.kind else .str "method"

/-- The entry as a method of a class. -/
def toMethod (entry : MemberEntry) (isStatic : Bool) : Json :=
  Node.methodDefinition entry.key (Node.copiedFunction entry.value) entry.methodKind
    (.bool isStatic) (.bool entry.computed)

/-- The entry as a field declared in a class body. -/
def toField (entry : MemberEntry) : Json :=
  Node.propertyDefinition entry.key entry.value (.bool entry.computed)

/-- The statement that assigns the entry's value to the member of `object` it names. -/
def toAssignment (object : Json) (entry : MemberEntry) : Except Failure Json := do
  let target ← Node.propertyAccess object entry.key (.bool entry.computed)
  return Node.assignmentStatement target entry.value

end MemberEntry

/-- A class body after its static methods were added, and the static data left over. -/
structure StaticMembers where
  body : List Json
  data : List MemberEntry

namespace StaticMembers

/-- Appends the static methods among the entries to a class body. -/
def append (entries : List MemberEntry) (body : List Json) : Traced StaticMembers := do
  let classified ← ClassifiedMembers.ofEntries none false entries
  Traced.record .debug .staticMembers
    ("Placed " ++ toString classified.methods.length ++ " static method(s), deferred "
      ++ toString classified.data.length ++ " static data member(s)")
  return ⟨body ++ classified.methods.map (·.toMethod true), classified.data⟩

/-- One statement `app.ui.Button.member = value;` for each entry. -/
def assignments (scope : Scope) (path : NamespacePath) (data : List MemberEntry) :
    Except Failure (List Json) :=
  data.mapM (·.toAssignment (scope.accessor path))

end StaticMembers

end ClassLift

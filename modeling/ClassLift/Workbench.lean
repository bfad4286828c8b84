import ClassLift.ClassBody.Method
import ClassLift.ClassShell
import ClassLift.Member.Table

/-!
# Building a class step by step

A workbench holds one scope, the shell of the class under work and a class body
for static members. Its actions are the steps of a conversion, in any order and
number. An action that fails can leave a trace: a constant stays declared, and
static methods stay in the body.
-/

namespace ClassLift

structure Workbench where
  scope : Scope
  shell : Option ClassShell
  staticBody : List Json

namespace Workbench

inductive Action where
  | guards
  | declareAlias
  | resolve
  | accessor
  | startClass
  | extendClass
  | addStatics (table : Json)

inductive Answer where
  | statements (statements : List Json)
  | declaration (statement : Option Json)
  | expression (node : Json)
  | started (shell : ClassShell)
  | extended (statements : List Json) (warnings : List String) (shell : ClassShell)
  | statics (body : List Json) (statements : List Json)

def start (rootObject : String) (aliases : List String) : Workbench :=
  ⟨⟨rootObject, aliases⟩, none, []⟩

/-- The failure of an action that needs a path or a class and has none. -/
def lacking {α : Type} : Traced α :=
  .ofExcept (.error (.shape .noFields))

/-- Carries on with the workbench that a computation leads to, if it leads to one. -/
def proceed {α : Type} (bench : Workbench) (result : Traced (α × Workbench)) :
    Workbench × Traced α :=
  match result.outcome with
  | .ok (_, next) => (next, do return (← result).1)
  | .error _ => (bench, do return (← result).1)

/-- Lets the class under work extend a path; the constant is declared even without a class. -/
def extendClass (bench : Workbench) (path? : Option NamespacePath) : Workbench × Traced Answer :=
  match bench.shell, path? with
  | some shell, _ =>
      bench.proceed do
        let extension ← shell.extend bench.scope path?
        return (.extended extension.statements extension.warnings extension.shell,
          { bench with scope := extension.scope, shell := some extension.shell })
  | none, some path =>
      let (bench, declared) := bench.proceed do
        let (declaration, scope) ← bench.scope.declareAlias path
        return (declaration, { bench with scope })
      (bench, do
        let _ ← declared
        lacking)
  | none, none => (bench, lacking)

/-- Adds static methods to the body and assigns static data to the class at the path. -/
def addStatics (bench : Workbench) (path? : Option NamespacePath) (table : Json) :
    Workbench × Traced Answer :=
  let (bench, data) := bench.proceed do
    let entries ← MemberTable.read table 2
    let added ← StaticMembers.append entries.entries bench.staticBody
    return (added.data, { bench with staticBody := added.body })
  (bench, do
    let data ← data
    match path?, data with
    | some path, data =>
        let statements ← StaticMembers.assignments bench.scope path data
        return .statics bench.staticBody statements
    | none, [] => return .statics bench.staticBody []
    | none, _ :: _ => lacking)

/-- Performs an action, with the path it is about if there is one. -/
def act (bench : Workbench) (path? : Option NamespacePath) (action : Action) :
    Workbench × Traced Answer :=
  match action, path? with
  | .extendClass, path? => bench.extendClass path?
  | .addStatics table, path? => bench.addStatics path? table
  | .guards, some path => (bench, pure (.statements (bench.scope.guards path)))
  | .declareAlias, some path =>
      bench.proceed do
        let (declaration, scope) ← bench.scope.declareAlias path
        return (.declaration declaration, { bench with scope })
  | .resolve, some path =>
      bench.proceed do
        let (statements, scope) ← bench.scope.resolve path
        return (.statements statements, { bench with scope })
  | .accessor, some path => (bench, pure (.expression (bench.scope.accessor path)))
  | .startClass, some path =>
      let shell := ClassShell.ofPath bench.scope path
      ({ bench with shell := some shell }, pure (.started shell))
  | _, none => (bench, lacking)

end Workbench

end ClassLift

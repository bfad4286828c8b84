import ClassLift.Namespace.Path
import ClassLift.Node
import ClassLift.Trace

/-!
# Namespaces in a generated program

Before a class can be assigned to `app.ui.Button`, its containers must exist on
the global object, and a constant for the root segment saves the global look-up
afterwards:

    window.app = window.app || {};
    window.app.ui = window.app.ui || {};
    const app = window.app;

A scope knows the global object and the roots for which such a constant has been
declared, so that no constant is declared twice.
-/

namespace ClassLift

/-- The global object and the names declared as constants for its members. -/
structure Scope where
  rootObject : String
  aliases : List String
deriving DecidableEq

namespace Scope

def global (scope : Scope) : Json :=
  Node.identifier (.str scope.rootObject)

/-- The access `object.a.b.c` for the names `a`, `b` and `c`. -/
def chain (object : Json) (names : List String) : Json :=
  Node.memberChain object (names.map .str)

/-- The statement `target = target || {};`. -/
def guard (target : Json) : Json :=
  Node.assignmentStatement target (Node.logicalOr target Node.emptyObject)

/-- A guard for each container below `object`, the outermost first. -/
def guardsBelow (object : Json) : List String → List Json
  | [] => []
  | name :: rest =>
      let container := Node.dot object (.str name)
      guard container :: guardsBelow container rest

/-- The guards that make sure that the containers of a path exist. -/
def guards (scope : Scope) (path : NamespacePath) : List Json :=
  guardsBelow scope.global path.containers

/-- The statement `const name = window.name;`. -/
def aliasStatement (scope : Scope) (name : String) : Json :=
  Node.constDeclaration (.str name) (Node.dot scope.global (.str name))

/--
The declaration of the root of a path, unless the path has no containers or its
root is declared already, and the scope after it.
-/
def declareAlias (scope : Scope) (path : NamespacePath) : Traced (Option Json × Scope) := do
  if !path.isNested then return (none, scope)
  if scope.aliases.contains path.root then
    Traced.record .debug .namespaces ("Reusing alias for namespace root '" ++ path.root ++ "'")
    return (none, scope)
  return (some (scope.aliasStatement path.root),
    { scope with aliases := scope.aliases ++ [path.root] })

/-- The guards of a path followed by the declaration of its root, if it needs one. -/
def resolve (scope : Scope) (path : NamespacePath) : Traced (List Json × Scope) := do
  let (declaration, scope') ← scope.declareAlias path
  let statements := scope.guards path ++ declaration.toList
  Traced.record .debug .namespaces
    ("Resolved namespace '" ++ path.dotted ++ "': " ++ toString statements.length
      ++ " statement(s)")
  return (statements, scope')

/-- The expression that reaches a path, through the constant for its root if there is one. -/
def accessor (scope : Scope) (path : NamespacePath) : Json :=
  if path.isNested && scope.aliases.contains path.root then
    chain (Node.identifier (.str path.root)) path.belowRoot
  else chain scope.global path.segments

/-- The declared names without repetition, in the order of their code points. -/
def sortedAliases (scope : Scope) : List String :=
  (scope.aliases.eraseDups).mergeSort (fun left right => decide (left ≤ right))

end Scope

end ClassLift

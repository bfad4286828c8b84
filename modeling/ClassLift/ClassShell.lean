import ClassLift.Namespace.Scope
import ClassLift.Text.Case

/-!
# Class shells

The shell of a class is the statement `app.ui.Button = class Button {}` before
any member is known. Its superclass may be set later, which can need a constant
for the root of the superclass's namespace.
-/

namespace ClassLift

/-- Where a class is assigned, its name and what it extends. -/
structure ClassShell where
  target : Json
  name : String
  superClass : Option Json
deriving DecidableEq

namespace ClassShell

def ofPath (scope : Scope) (path : NamespacePath) : ClassShell where
  target := scope.accessor path
  name := Text.capitalised path.className
  superClass := none

/-- The class expression with the given members. -/
def classNode (shell : ClassShell) (members : List Json) : Json :=
  Node.classWith (.str shell.name) (shell.superClass.getD .null) members

/-- The statement that assigns the class with the given members. -/
def statement (shell : ClassShell) (members : List Json) : Json :=
  Node.assignmentStatement shell.target (shell.classNode members)

def missingSuperclass : String :=
  "Missing namespace for extended class"

/-- What extending a shell leads to. -/
structure Extension where
  shell : ClassShell
  scope : Scope
  statements : List Json
  warnings : List String

/--
Lets a class extend the class at the given path, declaring a constant for its
root if there is none. Without a path there is only a warning.
-/
def extend (shell : ClassShell) (scope : Scope) :
    Option NamespacePath → Traced Extension
  | none => do
      Traced.record .warning .classShell (missingSuperclass ++ " '" ++ shell.name ++ "'")
      return ⟨shell, scope, [], [missingSuperclass]⟩
  | some path => do
      let (declaration, scope') ← scope.declareAlias path
      let superClass := scope'.accessor path
      Traced.record .debug .classShell
        ("Class '" ++ shell.name ++ "' extends '" ++ path.dotted ++ "'")
      return ⟨{ shell with superClass := some superClass }, scope', declaration.toList, []⟩

end ClassShell

end ClassLift

import ClassLift.Failure
import ClassLift.Text.Pieces

/-!
# Namespace paths

A dotted namespace such as `app.ui.Button` names a class and the chain of
containers it lives in. A path has at least one segment by construction: its
last segment is the class name, and the ones before it are the containers.
-/

namespace ClassLift

/-- A dotted namespace: the containers, outermost first, and the class name. -/
structure NamespacePath where
  containers : List String
  className : String
deriving DecidableEq

namespace NamespacePath

def segments (path : NamespacePath) : List String :=
  path.containers ++ [path.className]

/-- The first segment. -/
def root (path : NamespacePath) : String :=
  path.containers.headD path.className

/-- The segments after the first one. -/
def belowRoot (path : NamespacePath) : List String :=
  path.segments.tail

/-- Whether the class lives in a container. -/
def isNested (path : NamespacePath) : Bool :=
  !path.containers.isEmpty

def dotted (path : NamespacePath) : String :=
  Text.joined '.' path.segments

def length (path : NamespacePath) : Nat :=
  path.segments.length

/-- The path with the given segments, if there are any. -/
def ofSegments? (segments : List String) : Option NamespacePath :=
  segments.getLast?.map fun className => ⟨segments.dropLast, className⟩

/-- Reads a dotted namespace: a non-empty string without empty segments. -/
def parse (value : Json) : Except Failure NamespacePath :=
  match value with
  | .str text =>
      if text = "" then .error (.invalidNamespace value .notText)
      else
        let segments := Text.pieces '.' text
        if segments.contains "" then .error (.invalidNamespace value .emptySegment)
        else
          match ofSegments? segments with
          | some path => .ok path
          | none => .error (.invalidNamespace value .notText)
  | _ => .error (.invalidNamespace value .notText)

end NamespacePath

end ClassLift

import ClassLift.Namespace.Path
import ClassLift.Text.Pieces

/-!
# Conversion options

What a conversion can be told: which member becomes the constructor, whether and
what the class extends, where instance data goes and what the global object is
called.
-/

namespace ClassLift

/-- Where the data of an instance is initialised. -/
inductive Target where
  /-- By assignments in the constructor. -/
  | es2015
  /-- By fields declared in the class body. -/
  | es2017
deriving DecidableEq

namespace Target

def tag : Target → String
  | .es2015 => "es2015"
  | .es2017 => "es2017"

def all : List Target :=
  [.es2015, .es2017]

def ofTag? (tag : String) : Option Target :=
  all.find? (·.tag == tag)

def description : Target → String
  | .es2015 => "es2015 (fields assigned in constructor)"
  | .es2017 => "es2017 (declared class fields)"

end Target

structure Options where
  constructorName : String
  extended : Bool
  extendedNamespace : Option String
  target : Target
  rootObject : String
deriving DecidableEq

namespace Options

def default : Options where
  constructorName := "init"
  extended := false
  extendedNamespace := none
  target := .es2015
  rootObject := "window"

/-- The path of the superclass; a blank namespace names none. -/
def extendedPath (options : Options) : Except Failure (Option NamespacePath) :=
  match options.extendedNamespace with
  | none => .ok none
  | some dotted =>
      let name := Text.trimmed dotted
      if name = "" then .ok none
      else some <$> NamespacePath.parse (.str name)

end Options

end ClassLift

import ClassLift.Program
import ClassLift.Proofs.ClassBody.Constructor
import ClassLift.Proofs.Namespace.Scope

/-!
# Constants and the accesses that start from them

A generated statement either declares a constant or assigns something. An access
such as `app.ui.Button` starts from an identifier, its base; if that is a
constant, putting the initialiser of the constant in its place gives an access
from the global object.
-/

namespace ClassLift

namespace Node

/-- Whether a statement is a declaration of kind `const`. -/
def isConstant (statement : Json) : Bool :=
  hasType "VariableDeclaration" statement && (statement.field? "kind").any (·.isStr "const")

/-- The name that a statement declares as a constant, if it declares one. -/
def constantName? (statement : Json) : Option String :=
  match constName statement with
  | .ok (.str name) => some name
  | _ => none

/-- Whether a statement assigns something. -/
def IsAssignment (statement : Json) : Prop :=
  ∃ left right, statement = assignmentStatement left right

/-- The left side of an assignment. -/
def assigned? (statement : Json) : Option Json :=
  (statement.field? "expression").bind (·.field? "left")

/-- The object whose member an assignment sets. -/
def assignedObject? (statement : Json) : Option Json :=
  (assigned? statement).bind (·.field? "object")

@[simp]
theorem constName_assignmentStatement (left right : Json) :
    constName (assignmentStatement left right) = .ok .null :=
  rfl

@[simp]
theorem constantName?_assignmentStatement (left right : Json) :
    constantName? (assignmentStatement left right) = none :=
  rfl

@[simp]
theorem assigned?_constDeclaration (name init : Json) :
    assigned? (constDeclaration name init) = none :=
  rfl

theorem constDeclaration_ne_assignmentStatement (name init left right : Json) :
    constDeclaration name init ≠ assignmentStatement left right := by
  simp [constDeclaration, assignmentStatement, expressionStatement, ofType]

@[simp]
theorem isConstant_assignmentStatement (left right : Json) :
    isConstant (assignmentStatement left right) = false :=
  rfl

end Node

/-! ## The base of an access -/

theorem Json.sizeOf_lt_of_lookup {fields : List (String × Json)} {key : String} {value : Json}
    (found : fields.lookup key = some value) : sizeOf value < sizeOf fields := by
  induction fields with
  | nil => simp at found
  | cons field rest ih =>
      rcases field with ⟨otherKey, other⟩
      by_cases same : key = otherKey
      · obtain rfl : other = value := by simpa [same] using found
        simp only [List.cons.sizeOf_spec, Prod.mk.sizeOf_spec]
        omega
      · have differs : (key == otherKey) = false := by simpa using same
        rw [List.lookup_cons, differs] at found
        have smaller := ih found
        simp only [List.cons.sizeOf_spec]
        omega

theorem Json.sizeOf_lt_of_field? {node value : Json} {key : String}
    (found : node.field? key = some value) : sizeOf value < sizeOf node := by
  cases node with
  | obj fields =>
      have smaller := sizeOf_lt_of_lookup found
      simp only [obj.sizeOf_spec]
      omega
  | null | bool | int | float | str | arr => simp [field?] at found

namespace Node

/-- The identifier that an access starts from; what is no access has none. -/
def baseName? (node : Json) : Option String :=
  if hasType "Identifier" node then
    match node.field? "name" with
    | some (.str name) => some name
    | _ => none
  else if hasType "MemberExpression" node then
    match _found : node.field? "object" with
    | some object => baseName? object
    | none => none
  else none
termination_by sizeOf node
decreasing_by exact Json.sizeOf_lt_of_field? _found

/-- The access with an expression in place of its base, if that is the given name. -/
def expandBase (name : String) (initialiser node : Json) : Json :=
  if node = identifier (.str name) then initialiser
  else if hasType "MemberExpression" node then
    match _found : node.field? "object" with
    | some object =>
        let expanded := expandBase name initialiser object
        node.update "object" fun _ => expanded
    | none => node
  else node
termination_by sizeOf node
decreasing_by exact Json.sizeOf_lt_of_field? _found

@[simp]
theorem baseName?_identifier (name : String) : baseName? (identifier (.str name)) = some name := by
  rw [baseName?]
  rfl

/-- A member of an object is reached from where the object is reached from. -/
@[simp]
theorem baseName?_member (object property computed : Json) :
    baseName? (member object property computed) = baseName? object := by
  rw [baseName?]
  rfl

theorem expandBase_dot (name : String) (initialiser object property : Json) :
    expandBase name initialiser (dot object property) =
      dot (expandBase name initialiser object) property := by
  rw [expandBase]
  rfl

end Node

namespace Scope

@[simp]
theorem baseName?_chain (object : Json) (names : List String) :
    Node.baseName? (chain object names) = Node.baseName? object := by
  induction names generalizing object with
  | nil => rfl
  | cons name rest ih =>
      have step : chain object (name :: rest) = chain (Node.dot object (.str name)) rest := rfl
      rw [step, ih, Node.dot, Node.baseName?_member]

theorem expandBase_chain (name : String) (initialiser object : Json) (names : List String) :
    Node.expandBase name initialiser (chain object names) =
      chain (Node.expandBase name initialiser object) names := by
  induction names generalizing object with
  | nil => rfl
  | cons next rest ih =>
      have step : ∀ start, chain start (next :: rest) = chain (Node.dot start (.str next)) rest :=
        fun _ => rfl
      rw [step, step, ih, Node.expandBase_dot]

/-- An access from a constant is one from the global object, once the constant is expanded. -/
theorem expandBase_chain_identifier (rootObject name : String) (names : List String) :
    Node.expandBase name (Node.dot (Node.identifier (.str rootObject)) (.str name))
        (chain (Node.identifier (.str name)) names) =
      chain (Node.identifier (.str rootObject)) (name :: names) := by
  rw [expandBase_chain, Node.expandBase, if_pos rfl]
  rfl

end Scope

end ClassLift

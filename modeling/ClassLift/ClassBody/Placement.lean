import ClassLift.ClassBody.Method
import ClassLift.Options

/-!
# Placing instance data

The data of an instance is initialised in its constructor or declared as fields
right before it. Both need the constructor, which usually stands in the class
body but may be given apart from it.
-/

namespace ClassLift

/-- A constructor together with the class body it belongs to. -/
inductive ConstructorSlot where
  | within (before : List Json) (node : Json) (after : List Json)
  | apart (body : List Json) (node : Json)
deriving DecidableEq

namespace ConstructorSlot

def body : ConstructorSlot → List Json
  | .within before node after => before ++ node :: after
  | .apart body _ => body

def node : ConstructorSlot → Json
  | .within _ node _ => node
  | .apart _ node => node

/-- Where in its body the constructor stands. -/
def index? : ConstructorSlot → Option Nat
  | .within before _ _ => some before.length
  | .apart _ _ => none

def replaceNode (slot : ConstructorSlot) (node : Json) : ConstructorSlot :=
  match slot with
  | .within before _ after => .within before node after
  | .apart body _ => .apart body node

/-- Adds members at the end of the body. -/
def append (slot : ConstructorSlot) (members : List Json) : ConstructorSlot :=
  match slot with
  | .within before node after => .within before node (after ++ members)
  | .apart body node => .apart (body ++ members) node

/-- The slot of the member of a body at an index. -/
def at? (body : List Json) (index : Nat) : Option ConstructorSlot :=
  match body.drop index with
  | node :: after => some (.within (body.take index) node after)
  | [] => none

end ConstructorSlot

/-- The statements of a constructor, whatever is found in their place. -/
def Node.constructorStatements (node : Json) : Except Failure Json := do
  let function ← node.required "value"
  let block ← function.required "body"
  block.required "body"

/-- Replaces the statements of a constructor. -/
def Node.withConstructorStatements (node : Json) (statements : List Json) : Json :=
  node.update "value" (·.update "body" (·.update "body" fun _ => .arr statements))

namespace Placement

/-- The assignments to `this`, up to the first entry that allows none. -/
def initialisers : List MemberEntry → List Json × Option Failure
  | [] => ([], none)
  | entry :: rest =>
      match entry.toAssignment Node.thisExpression with
      | .error failure => ([], some failure)
      | .ok statement =>
          let (statements, failure) := initialisers rest
          (statement :: statements, failure)

/-- Appends initialisers to a constructor; on failure those before the fault stay. -/
def initialise (node : Json) (data : List MemberEntry) : Json × Option Failure :=
  match Node.constructorStatements node with
  | .error failure => (node, some failure)
  | .ok (.arr statements) =>
      let (added, failure) := initialisers data
      (Node.withConstructorStatements node (statements ++ added), failure)
  | .ok _ => (node, if data.isEmpty then none else some (.shape .notAList))

/-- Declares fields right before the constructor, which must stand in the body. -/
def declare (slot : ConstructorSlot) (data : List MemberEntry) :
    ConstructorSlot × Option Failure :=
  match slot with
  | .within before node after => (.within (before ++ data.map (·.toField)) node after, none)
  | .apart _ _ => (slot, some .constructorOutside)

/-- Places instance data, and says what went wrong if something did. -/
def place (target : Target) (slot : ConstructorSlot) (data : List MemberEntry) :
    ConstructorSlot × Option Failure :=
  match target with
  | .es2015 =>
      let (node, failure) := initialise slot.node data
      (slot.replaceNode node, failure)
  | .es2017 => declare slot data

end Placement

end ClassLift

import ClassLift.ClassBody.Placement

/-!
# Instance members

Adding a member table to a class body: its constructor, or an empty one if there
is data and no constructor, then its methods, and the data where the target
wants it.
-/

namespace ClassLift

namespace Node

/-- A constructor with the given function. -/
def classConstructor (function : Json) : Json :=
  methodDefinition (identifier (.str "constructor")) function (.str "constructor") (.bool false)
    (.bool false)

/-- A function without parameters and statements. -/
def emptyFunction : Json :=
  functionExpression .null .null .null (.bool false) (.bool false) (.bool false)

/-- A function that hands all its arguments to the superclass. -/
def forwardingFunction : Json :=
  functionExpression (.arr [restElement (.str "args")])
    (block (.arr [superCallStatement (.str "args")])) .null (.bool false) (.bool false)
    (.bool false)

/-- The constructor made up for data; a derived class must call its superclass first. -/
def synthesisedConstructor (derived : Bool) : Json :=
  classConstructor (if derived then forwardingFunction else emptyFunction)

/-- Whether a member of a class body is its constructor. -/
def isConstructor (node : Json) : Except Failure Bool := do
  let type ← node.field "type"
  let kind ← node.field "kind"
  return type.isStr "MethodDefinition" && kind.isStr "constructor"

end Node

namespace ConstructorSlot

/-- The first constructor of a class body. -/
def find? : List Json → Except Failure (Option ConstructorSlot)
  | [] => .ok none
  | node :: rest => do
      if ← Node.isConstructor node then return some (.within [] node rest)
      match ← find? rest with
      | some (.within before found after) => return some (.within (node :: before) found after)
      | _ => return none

end ConstructorSlot

/-- What was added to a class body: where its constructor is, the methods and the data. -/
structure InstanceMembers where
  slot : Option ConstructorSlot
  produced : Bool
  methods : List Json
  data : List MemberEntry

namespace InstanceMembers

/--
The slot of the constructor: the one taken from the table, else the one the body
already has, else one made up if there is data.
-/
def chooseSlot (produced derived : Bool) (members : ClassifiedMembers) (body : List Json) :
    Traced (Option ConstructorSlot) := do
  match members.classConstructor with
  | some entry =>
      let node := Node.classConstructor (Node.copiedFunction entry.value)
      return some (.within body node [])
  | none =>
      let found ← (if produced then ConstructorSlot.find? body else pure none : Except Failure _)
      match found with
      | some slot => return some slot
      | none =>
          if members.data.isEmpty then return none
          Traced.record .debug .instanceMembers
            "Synthesising empty constructor for instance data members"
          return some (.within body (Node.synthesisedConstructor derived) [])

/-- The class body as it is left, and what was added to it. -/
structure Added where
  body : List Json
  members : Traced InstanceMembers

/-- Places the data and reports it, after constructor and methods have been added. -/
def finish (target : Target) (slot : ConstructorSlot) (methods : List Json)
    (data : List MemberEntry) : Added :=
  if data.isEmpty then ⟨slot.body, pure ⟨some slot, true, methods, data⟩⟩
  else
    let (placed, failure) := Placement.place target slot data
    let members : Traced InstanceMembers :=
      match failure with
      | some failure => .ofExcept (.error failure)
      | none => do
          Traced.record .debug .instanceMembers
            ("Placed " ++ toString data.length ++ " instance data member(s) for " ++ target.tag)
          return ⟨some placed, true, methods, data⟩
    ⟨placed.body, members⟩

/-- Adds the entries of a table to a class body that is known to have a constructor or not. -/
def add (options : Options) (produced derived : Bool) (entries : List MemberEntry)
    (body : List Json) : Added :=
  let planned : Traced (ClassifiedMembers × Option ConstructorSlot) := do
    let members ←
      ClassifiedMembers.ofEntries (some (.str options.constructorName)) produced entries
    let slot ← chooseSlot produced derived members body
    return (members, slot)
  match planned.outcome with
  | .error failure => ⟨body, ⟨planned.log, .error failure⟩⟩
  | .ok (members, slot?) =>
      let methods := members.methods.map (·.toMethod false)
      let added : Added :=
        match slot? with
        | some slot => finish options.target (slot.append methods) methods members.data
        | none => ⟨body ++ methods, pure ⟨none, produced, methods, members.data⟩⟩
      ⟨added.body, do
        let _ ← planned
        added.members⟩

end InstanceMembers

end ClassLift

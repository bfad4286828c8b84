import ClassLift.Json.Access
import ClassLift.Json.Equality
import ClassLift.Trace

/-!
# Member tables

A member table is given as an object literal, or as the literal `null` for an
empty one. Each of its properties is read once into an entry, and everything
later asks the entry: for its name, whether its value is a function, and whether
it is a getter or setter. Spread elements and the like are skipped with a
warning.
-/

namespace ClassLift

/-- A property of a member table. -/
structure MemberEntry where
  key : Json
  value : Json
  computed : Bool
  kind : Json
deriving DecidableEq

namespace MemberEntry

/-- The name under which the entry is known; null if its key is not a plain name. -/
def name (entry : MemberEntry) : Except Failure Json :=
  if entry.computed then .ok .null
  else do
    let type ← entry.key.field "type"
    if type.isStr "Identifier" then entry.key.field "name"
    else
      match type.isStr "Literal", ← entry.key.field "value" with
      | true, .str text => return .str text
      | _, _ => return .null

/-- Whether the value is a function expression. -/
def isFunction (entry : MemberEntry) : Except Failure Bool := do
  let type ← entry.value.field "type"
  return type.isStr "FunctionExpression"

/-- Whether the entry is a getter or a setter. -/
def isAccessor (entry : MemberEntry) : Bool :=
  entry.kind.isStr "get" || entry.kind.isStr "set"

end MemberEntry

/-- The entries of a member table and the warnings about what was skipped. -/
structure MemberTable where
  entries : List MemberEntry
  warnings : List String

namespace MemberTable

/-- A property read as an entry, or the warning that it is skipped. -/
def readProperty (position : Int) (property : Json) :
    Except Failure (MemberEntry ⊕ String) := do
  let type ← property.field "type"
  if type = .null ∨ type.isStr "Property" then
    let key ← property.required "key"
    let value ← property.required "value"
    let computed ← property.fieldOr "computed" (.bool false)
    let kind ← property.fieldOr "kind" (.str "init")
    return .inl { key, value, computed := computed.isTruthy, kind }
  else
    return .inr ("Skipped " ++ type.displayBare ++ " in member table at argument "
      ++ toString position)

/-- The properties of a table from the first to the last. -/
def readProperties (position : Int) : List Json → Traced MemberTable
  | [] => return ⟨[], []⟩
  | property :: rest => do
      match ← (readProperty position property : Except Failure _) with
      | .inl entry =>
          let table ← readProperties position rest
          return { table with entries := entry :: table.entries }
      | .inr warning =>
          Traced.record .warning .memberTable warning
          let table ← readProperties position rest
          return { table with warnings := warning :: table.warnings }

/-- The properties of the node given as a table: none for a `null` literal. -/
def properties (node : Json) (position : Int) : Except Failure (List Json) :=
  if node = .null then .error (.invalidMemberTable position .null)
  else do
    let type ← node.field "type"
    let value ← node.field "value"
    if type.isStr "Literal" ∧ value = .null then return []
    else if type.isStr "ObjectExpression" then
      let listed ← node.fieldOr "properties" (.arr [])
      listed.elements
    else throw (.invalidMemberTable position type)

/-- Reads the argument at a position, counted from one, as a member table. -/
def read (node : Json) (position : Int) : Traced MemberTable := do
  let listed ← (properties node position : Except Failure _)
  readProperties position listed

end MemberTable

end ClassLift

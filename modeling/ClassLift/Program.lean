import ClassLift.Callee
import ClassLift.Conversion
import ClassLift.Tree

/-!
# Converting whole programs

Every class-definition call of a program is converted on its own, in source
order, and the statements of all conversions are merged into one program. Each
conversion declares the constants it needs; in the merged program only the
first declaration of a name is kept.
-/

namespace ClassLift

namespace Node

/-- The name that a statement declares as a constant; null if it declares none. -/
def constName (statement : Json) : Except Failure Json := do
  let type ← statement.field "type"
  let kind ← statement.field "kind"
  if !(type.isStr "VariableDeclaration" && kind.isStr "const") then return .null
  let declarations ← statement.field "declarations"
  let declarations := if declarations.isTruthy then declarations else .arr []
  if (← declarations.length) ≠ 1 then return .null
  let declarator ← declarations.first
  let declared ← declarator.field "id"
  if declared.isTruthy then declared.field "name" else return .null

/-- Whether a value can serve as a name: lists and objects cannot. -/
def isName : Json → Bool
  | .arr _ | .obj _ => false
  | _ => true

end Node

namespace Program

/-- Whether a name is among the declared ones. -/
def isDeclared (declared : List Json) (name : Json) : Except Failure Bool :=
  if Node.isName name then .ok (declared.any (·.sameValue name))
  else .error (.shape .compoundName)

/--
The statements without those that declare a name again, and the names declared
after them. The label says in the log whose statements they are.
-/
def dropRepeated (label : String) : List Json → List Json → Traced (List Json × List Json)
  | declared, [] => return ([], declared)
  | declared, statement :: rest => do
      let name ← (Node.constName statement : Except Failure _)
      if name = .null then
        let (kept, declared) ← dropRepeated label declared rest
        return (statement :: kept, declared)
      else if ← (isDeclared declared name : Except Failure _) then
        Traced.record .debug .program
          ("Dropping repeated alias '" ++ name.displayBare ++ "' for " ++ label)
        dropRepeated label declared rest
      else
        let (kept, declared) ← dropRepeated label (declared ++ [name]) rest
        return (statement :: kept, declared)

/-- Merges labelled runs of statements, given the names declared before them. -/
def mergeFrom : List Json → List (String × List Json) → Traced (List Json)
  | _, [] => return []
  | declared, (label, statements) :: runs => do
      let (kept, declared) ← dropRepeated label declared statements
      let rest ← mergeFrom declared runs
      return kept ++ rest

/-- Merges labelled runs of statements into one body. -/
def merge (runs : List (String × List Json)) : Traced (List Json) :=
  mergeFrom [] runs

def defaultCallee : String :=
  "$.Class"

/-- Goes through nodes in order and converts the calls of the callee among them. -/
def convertCalls (options : Options) (names : List String) : List Json → Traced (List Conversion)
  | [] => return []
  | node :: rest => do
      if ← (Node.isCallOf names node : Except Failure _) then
        let parameters ← (node.field "arguments" : Except Failure _)
        let conversion ← Conversion.ofParameters options parameters
        let others ← convertCalls options names rest
        return conversion :: others
      else convertCalls options names rest

/-- The calls of a callee in a program, in source order. -/
def findCalls (callee : String) (program : Json) : Except Failure (List Json) :=
  program.walk.filterM (Node.isCallOf (Text.pieces '.' callee))

/-- A merged program and the conversions it was merged from. -/
structure Converted where
  program : Json
  conversions : List Conversion

/-- Converts every class-definition call of a program. -/
def convert (options : Options) (callee : String) (program : Json) : Traced Converted := do
  let conversions ← convertCalls options (Text.pieces '.' callee) program.walk
  if conversions.isEmpty then
    Traced.record .warning .program ("No '" ++ callee ++ "' calls found")
  let body ← merge (conversions.map fun conversion =>
    (conversion.namespaceText, conversion.statements))
  return ⟨Node.program (.arr body), conversions⟩

end Program

end ClassLift

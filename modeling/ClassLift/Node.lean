import ClassLift.Json.Access

/-!
# Syntax tree nodes

The nodes that generated programs are made of. A node is an object whose first
field gives its type; the fields of each type come in a fixed order. Parts may
be any tree, since most of them are copied from the input.
-/

namespace ClassLift.Node

/-- A node of the given type. -/
def ofType (type : String) (fields : List (String × Json)) : Json :=
  .obj (("type", .str type) :: fields)

def identifier (name : Json) : Json :=
  ofType "Identifier" [("name", name)]

def literal (value : Json) : Json :=
  ofType "Literal" [("value", value)]

def thisExpression : Json :=
  ofType "ThisExpression" []

def member (object property computed : Json) : Json :=
  ofType "MemberExpression"
    [("object", object), ("property", property), ("computed", computed)]

/-- The plain access `object.name`. -/
def dot (object name : Json) : Json :=
  member object (identifier name) (.bool false)

/-- The access `object.a.b.c` for the names `a`, `b` and `c`. -/
def memberChain (object : Json) (names : List Json) : Json :=
  names.foldl dot object

def emptyObject : Json :=
  ofType "ObjectExpression" [("properties", .arr [])]

def logicalOr (left right : Json) : Json :=
  ofType "LogicalExpression" [("operator", .str "||"), ("left", left), ("right", right)]

def assignment (left right : Json) : Json :=
  ofType "AssignmentExpression" [("operator", .str "="), ("left", left), ("right", right)]

def expressionStatement (expression : Json) : Json :=
  ofType "ExpressionStatement" [("expression", expression)]

/-- The statement `left = right;`. -/
def assignmentStatement (left right : Json) : Json :=
  expressionStatement (assignment left right)

/-- The statement `const name = init;`. -/
def constDeclaration (name init : Json) : Json :=
  ofType "VariableDeclaration"
    [("declarations",
      .arr [ofType "VariableDeclarator" [("id", identifier name), ("init", init)]]),
     ("kind", .str "const")]

def orElse (fallback : Json) : Json → Json
  | .null => fallback
  | given => given

/-- A block of statements; null stands for none. -/
def block (body : Json) : Json :=
  ofType "BlockStatement" [("body", orElse (.arr []) body)]

/-- A function; null parameters or a null body stand for empty ones. -/
def functionExpression (params body functionId generator isAsync expression : Json) : Json :=
  ofType "FunctionExpression"
    [("id", functionId), ("generator", generator), ("expression", expression),
     ("async", isAsync), ("params", orElse (.arr []) params),
     ("body", orElse (block .null) body)]

def methodDefinition (key value kind isStatic computed : Json) : Json :=
  ofType "MethodDefinition"
    [("key", key), ("computed", computed), ("static", isStatic), ("kind", kind), ("value", value)]

/-- An instance field `key = value;` of a class body. -/
def propertyDefinition (key value computed : Json) : Json :=
  ofType "PropertyDefinition"
    [("key", key), ("computed", computed), ("static", .bool false), ("value", value)]

/-- A class with the given members. -/
def classWith (name superClass : Json) (members : List Json) : Json :=
  ofType "ClassExpression"
    [("id", identifier name), ("superClass", superClass),
     ("body", ofType "ClassBody" [("body", .arr members)])]

def program (body : Json) : Json :=
  ofType "Program" [("sourceType", .str "script"), ("body", body)]

/-- The access `object.key`, or `object["key"]` for a literal key. -/
def propertyAccess (object key computed : Json) : Except Failure Json :=
  if computed.isTruthy then .ok (member object key computed)
  else do
    let type ← key.field "type"
    return member object key (if type.isStr "Literal" then .bool true else computed)

def restElement (name : Json) : Json :=
  ofType "RestElement" [("argument", identifier name)]

/-- The statement `super(...name);`. -/
def superCallStatement (name : Json) : Json :=
  expressionStatement
    (ofType "CallExpression"
      [("callee", ofType "Super" []),
       ("arguments", .arr [ofType "SpreadElement" [("argument", identifier name)]]),
       ("optional", .bool false)])

end ClassLift.Node

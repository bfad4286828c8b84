import ClassLift.Json.Access

/-!
# Callees of class-definition calls

A class-definition call is recognised by its callee, a plain chain of names such
as `$.Class`. The chain is matched from its end, since the outermost node of a
member access holds the last name.
-/

namespace ClassLift.Node

/-- Whether a node is an identifier of the given name. -/
def isIdentifier (node : Json) (name : String) : Except Failure Bool := do
  let type ← node.field "type"
  if type.isStr "Identifier" then
    let found ← node.field "name"
    return found.isStr name
  else return false

/-- Whether a node accesses a member by the given plain name. -/
def accessesMember (node : Json) (name : String) : Except Failure Bool := do
  let type ← node.field "type"
  if !type.isStr "MemberExpression" then return false
  if (← node.field "computed").isTruthy then return false
  let property ← node.field "property"
  if property.isTruthy then isIdentifier property name else return false

/-- Whether a node is the chain of the given names, listed from the last to the first. -/
def isChainBackwards (node : Json) : List String → Except Failure Bool
  | [] => .ok false
  | [name] => if node.isTruthy then isIdentifier node name else .ok false
  | name :: earlier =>
      if node.isTruthy then do
        if ← accessesMember node name then
          let object ← node.field "object"
          isChainBackwards object earlier
        else return false
      else .ok false

/-- Whether a node is the plain chain of the given names. -/
def isChain (node : Json) (names : List String) : Except Failure Bool :=
  isChainBackwards node names.reverse

/-- Whether a node is a call of the callee with the given names. -/
def isCallOf (names : List String) (node : Json) : Except Failure Bool := do
  let type ← node.field "type"
  if type.isStr "CallExpression" then
    let callee ← node.field "callee"
    isChain callee names
  else return false

end ClassLift.Node

import ClassLift.Json.Basic

/-!
# Equality by value

Two trees have the same value when they differ only in the order of fields and
in how a number is held: `1`, `1.0` and `true` are one value. Names of members
and of declared constants are compared this way.
-/

namespace ClassLift.Json

/-- The number a scalar stands for: a truth value counts as zero or one. -/
inductive Quantity where
  | whole (value : Int)
  | binary (value : Binary64)

def Quantity.same : Quantity → Quantity → Bool
  | .whole left, .whole right => left == right
  | .whole left, .binary right => right.equalsInt left
  | .binary left, .whole right => left.equalsInt right
  | .binary left, .binary right => left.sameQuantity right

def quantity? : Json → Option Quantity
  | .bool value => some (.whole value.toInt)
  | .int value => some (.whole value)
  | .float value => some (.binary value)
  | _ => none

def sameScalar (left right : Json) : Bool :=
  match left.quantity?, right.quantity? with
  | some left, some right => left.same right
  | _, _ => false

mutual

def sameValue : Json → Json → Bool
  | .null, .null => true
  | .str left, .str right => left == right
  | .arr left, .arr right => sameItems left right
  | .obj left, .obj right => left.length == right.length && sameFields left right
  | .bool left, right => sameScalar (.bool left) right
  | .int left, right => sameScalar (.int left) right
  | .float left, right => sameScalar (.float left) right
  | _, _ => false

def sameItems : List Json → List Json → Bool
  | [], [] => true
  | left :: lefts, right :: rights => sameValue left right && sameItems lefts rights
  | _, _ => false

/-- Whether every field on the left has a field of the same value on the right. -/
def sameFields : List (String × Json) → List (String × Json) → Bool
  | [], _ => true
  | (key, left) :: lefts, rights =>
      (match rights.lookup key with
        | some right => sameValue left right
        | none => false) && sameFields lefts rights

end

end ClassLift.Json

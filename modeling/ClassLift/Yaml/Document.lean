import ClassLift.Yaml.Node

/-!
# Documents

The nodes of a text are read as values. Of repeated keys the last one counts,
and a merged mapping gives way to the keys beside it. What holds further values
is filled only after everything before it, level by level; so of several faults
the one nearest to the outside is met first. A value can hold itself, which is
why values refer to what they hold by number.
-/

namespace ClassLift.Yaml

/-- A value: a scalar, or something that holds further values. -/
inductive Value where
  | scalar (scalar : Scalar)
  | held (number : Nat)
deriving DecidableEq

/-- What a value holds. -/
inductive Holding where
  | items (values : List Value)
  | pairs (values : List (Value × Value))
  | fields (values : List (Value × Value))
  | members (values : List Value)

namespace Scalar

/-- Whether two scalars are one key. Numbers and truth values are compared as quantities. -/
def sameKey (left right : Scalar) : Bool :=
  match left, right with
  | .number left, .number right => left.sameQuantity right
  | .number left, .whole right | .whole right, .number left => left.equalsInt right
  | .number left, .truth right | .truth right, .number left => left.equalsInt right.toInt
  | .whole left, .truth right | .truth right, .whole left => left == right.toInt
  | _, _ => left == right

end Scalar

namespace Holding

/-- Whether a value is the given key. -/
def isKey (key : Scalar) : Value → Bool
  | .scalar other => other.sameKey key
  | .held _ => false

/-- Sets the value of a key: an existing one keeps its place. -/
def setField (key : Scalar) (value : Value) : List (Value × Value) → List (Value × Value)
  | [] => [(.scalar key, value)]
  | (otherKey, other) :: rest =>
      if isKey key otherKey then (otherKey, value) :: rest
      else (otherKey, other) :: setField key value rest

end Holding

/--
Values under construction: the nodes they are read from, those that wait to be
filled, and how deeply mappings can be merged into one another.
-/
structure Builder where
  nodes : Array Node
  mergeDepth : Nat
  values : Array (Option Value)
  holdings : Array (Option Holding)
  waiting : List Nat

/-- A step of reading values, which can fail. -/
abbrev Build (α : Type) := StateT Builder (Except ReadFault) α

namespace Build

def node (number : Nat) : Build Node := do
  return (← get).nodes[number]?.getD .nothing

/-- The pairs of a mapping; nothing else has any. -/
def pairsOf (number : Nat) : Build (Option (List (Nat × Nat))) := do
  match (← node number).content with
  | .mapping pairs => return some pairs
  | _ => return none

def setPairs (number : Nat) (pairs : List (Nat × Nat)) : Build Unit :=
  modify fun builder => { builder with
    nodes := builder.nodes.modify number fun node => { node with content := .mapping pairs } }

/-- A key that is the sign of a default value becomes a text. -/
def setText (number : Nat) : Build Unit :=
  modify fun builder => { builder with
    nodes := builder.nodes.modify number fun node => { node with kind := .text } }

/-- The text of a scalar. A mapping with a default value stands for it. -/
def scalarText : Nat → Nat → Build ScalarText
  | 0, _ => throw .endless
  | fuel + 1, number => do
      match (← node number).content with
      | .scalar text => return text
      | .sequence _ => throw .malformed
      | .mapping pairs =>
          match ← pairs.findM? (fun (key, _) => return (← node key).kind == .default) with
          | some (_, value) => scalarText fuel value
          | none => throw .malformed

/-- Reads a node of one of the kinds that scalars can have. -/
def readScalar (number : Nat) (node : Node) : Build Scalar := do
  let text ← scalarText ((← get).nodes.size + 1) number
  match node.kind, node.content with
  | .moment, .mapping _ => throw .momentInMapping
  | kind, _ =>
      match text.read kind with
      | .ok scalar => return scalar
      | .error fault => throw fault

/-- The value of a node. What holds further values is left to be filled later. -/
def value (number : Nat) : Build Value := do
  match (← get).values[number]?.join with
  | some value => return value
  | none =>
      let node ← node number
      let (value, waits) ←
        match node.kind with
        | .sequence | .mapping | .set | .pairs => pure (Value.held number, true)
        | .unknown tag => throw (.unknownTag tag)
        | .merge | .default => throw .malformed
        | _ => do pure (.scalar (← readScalar number node), false)
      modify fun builder => { builder with
        values := builder.values.setIfInBounds number (some value)
        waiting := if waits then builder.waiting ++ [number] else builder.waiting }
      return value

/-- The pairs of a mapping that is merged into another, once it is flat itself. -/
def mergedPairs (flatten : Nat → Build Unit) (number : Nat) : Build (List (Nat × Nat)) := do
  if (← pairsOf number).isNone then throw .malformed
  flatten number
  return (← pairsOf number).getD []

/--
Goes through the pairs of a mapping. Those of the mappings that it merges come
first, and of several mappings in one list the last one does. A key that merges
is dropped before the mappings it names are looked at, so a mapping that is
merged into itself does no harm.
-/
def flattenPairs (flatten : Nat → Build Unit) (number : Nat) :
    List (Nat × Nat) → (kept merged : List (Nat × Nat)) → Build Unit
  | [], kept, merged => setPairs number (merged ++ kept)
  | (key, value) :: rest, kept, merged => do
      match (← node key).kind, (← node value).content with
      | .merge, .sequence items => do
          setPairs number (kept ++ rest)
          let found ← items.mapM (mergedPairs flatten)
          flattenPairs flatten number rest kept (merged ++ found.reverse.flatten)
      | .merge, _ => do
          setPairs number (kept ++ rest)
          let found ← mergedPairs flatten value
          flattenPairs flatten number rest kept (merged ++ found)
      | .default, _ => do
          setText key
          flattenPairs flatten number rest (kept ++ [(key, value)]) merged
      | _, _ => flattenPairs flatten number rest (kept ++ [(key, value)]) merged

/-- Replaces the keys that merge other mappings by the pairs of those mappings. -/
def flatten : (fuel : Nat) → Nat → Build Unit
  | 0, _ => throw .endless
  | fuel + 1, number => do
      match ← pairsOf number with
      | some pairs => flattenPairs (flatten fuel) number pairs [] []
      | none => throw .malformed

/-- The keys and values of a mapping; a key must be a scalar. -/
def fields : List (Nat × Nat) → List (Value × Value) → Build (List (Value × Value))
  | [], found => return found
  | (key, item) :: rest, found => do
      match ← value key with
      | .held _ => throw .malformed
      | .scalar key => do
          let item ← value item
          fields rest (Holding.setField key item found)

/-- The keys and values of a mapping that may merge others. -/
def mappingFields (number : Nat) : Build (List (Value × Value)) := do
  flatten (← get).mergeDepth number
  fields ((← pairsOf number).getD []) []

/-- The only key and value of a mapping. -/
def singlePair (number : Nat) : Build (Value × Value) := do
  match ← pairsOf number with
  | some [(key, item)] => return (← value key, ← value item)
  | _ => throw .malformed

/-- What a value of the given number holds. -/
def holding (number : Nat) : Build Holding := do
  let node ← node number
  match node.kind, node.content with
  | .sequence, .sequence items => return .items (← items.mapM value)
  | .pairs, .sequence items => return .pairs (← items.mapM singlePair)
  | .mapping, .mapping _ => return .fields (← mappingFields number)
  | .set, .mapping _ => return .members ((← mappingFields number).map Prod.fst)
  | _, _ => throw .malformed

/-- Fills all that waits, in the order in which it was found. -/
def fill : Nat → Build Unit
  | 0 => return
  | fuel + 1 => do
      match (← get).waiting with
      | [] => return
      | number :: rest =>
          modify fun builder => { builder with waiting := rest }
          let found ← holding number
          modify fun builder => { builder with
            holdings := builder.holdings.setIfInBounds number (some found) }
          fill fuel

end Build

/-- The value that a text spells, and what it and the values in it hold. -/
structure Document where
  root : Value
  holdings : Array (Option Holding)

namespace Document

/-- Every merge drops a pair, so there are fewer of them than pairs and nodes. -/
def mergeDepth (nodes : Array Node) : Nat :=
  nodes.foldl
    (fun count node =>
      match node.content with
      | .mapping pairs => count + pairs.length
      | _ => count)
    (nodes.size + 1)

/-- Reads a text; an empty one spells nothing. -/
def ofText (text : String) : Except ReadFault Document := do
  let composition ← Composition.ofText text
  match composition.root with
  | none => return ⟨.scalar .nothing, #[]⟩
  | some root =>
      let size := composition.nodes.size
      let read : Build Value := do
        let value ← Build.value root
        Build.fill (size + 1)
        return value
      let (value, builder) ← read.run {
        nodes := composition.nodes
        mergeDepth := mergeDepth composition.nodes
        values := Array.replicate size none
        holdings := Array.replicate size none
        waiting := [] }
      return ⟨value, builder.holdings⟩

/-- What a value holds, if it is not a scalar. -/
def holding? (document : Document) : Value → Option Holding
  | .scalar _ => none
  | .held number => document.holdings[number]?.join

/-- The value of a key of a mapping, if the key is a text. -/
def field? (document : Document) (value : Value) (key : String) : Option Value := do
  let .fields fields ← document.holding? value | none
  (fields.find? fun (other, _) => Holding.isKey (.text key) other).map Prod.snd

end Document

end ClassLift.Yaml

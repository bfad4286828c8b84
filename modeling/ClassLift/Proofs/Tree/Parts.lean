import ClassLift.Proofs.Tree.Walk

/-!
# The parts of a tree

The parts of a list are its items and the parts of an object are the values of
its fields; nothing else has parts. What is said of a tree by recursion is proved
by `partsInduction`: it may be assumed of the parts.
-/

namespace ClassLift.Json

/-- What stands directly inside a tree, in order. -/
def parts : Json → List Json
  | .arr items => items
  | .obj fields => fieldValues fields
  | _ => []

/-- Whether a tree is a node itself: an object with a type. -/
def isNode : Json → Bool
  | .obj fields => hasType fields
  | _ => false

/-- The tree itself, if it is a node. -/
def ownNode (tree : Json) : List Json :=
  if tree.isNode then [tree] else []

theorem visits_lt_of_mem_parts {tree part : Json} (isPart : part ∈ tree.parts) :
    part.visits < tree.visits := by
  have visitsOfMem : ∀ items : List Json, part ∈ items → part.visits ≤ visitsOfItems items := by
    intro items isItem
    rcases List.append_of_mem isItem with ⟨front, back, rfl⟩
    rw [visitsOfItems_append, visitsOfItems]
    omega
  cases tree with
  | arr items =>
      have atMost := visitsOfMem items isPart
      rw [visits]
      omega
  | obj fields =>
      have atMost := visitsOfMem (fieldValues fields) isPart
      rw [visitsOfItems_fieldValues] at atMost
      rw [visits]
      omega
  | null | bool | int | float | str => simp [parts] at isPart

/-- What holds of a tree as soon as it holds of its parts holds of every tree. -/
@[elab_as_elim]
theorem partsInduction {motive : Json → Prop}
    (step : ∀ tree : Json, (∀ part ∈ tree.parts, motive part) → motive tree) (tree : Json) :
    motive tree :=
  step tree fun part _isPart => partsInduction step part
termination_by tree.visits
decreasing_by exact visits_lt_of_mem_parts _isPart

theorem nodesOfItems_eq_flatMap (items : List Json) : nodesOfItems items = items.flatMap nodes := by
  induction items with
  | nil => rfl
  | cons item rest ih => rw [nodesOfItems, ih, List.flatMap_cons]

/-- A tree contributes itself, if it is a node, and then the nodes of its parts. -/
theorem nodes_eq (tree : Json) : tree.nodes = tree.ownNode ++ nodesOfItems tree.parts := by
  cases tree with
  | arr items => rfl
  | obj fields => rw [nodes, parts, nodesOfItems_fieldValues, ownNode, isNode]
  | null | bool | int | float | str => rfl

theorem mem_nodes_iff {tree node : Json} :
    node ∈ tree.nodes ↔
      node = tree ∧ tree.isNode = true ∨ ∃ part ∈ tree.parts, node ∈ part.nodes := by
  rw [nodes_eq, nodesOfItems_eq_flatMap, List.mem_append, List.mem_flatMap, ownNode]
  split
  · rename_i isNode
    simp [isNode]
  · rename_i notNode
    simp [notNode]

theorem mem_nodes_of_mem_parts {tree part node : Json} (isPart : part ∈ tree.parts)
    (isNode : node ∈ part.nodes) : node ∈ tree.nodes :=
  mem_nodes_iff.mpr (.inr ⟨part, isPart, isNode⟩)

theorem mem_parts_of_field? {tree value : Json} {key : String}
    (found : tree.field? key = some value) : value ∈ tree.parts := by
  cases tree with
  | obj fields =>
      rcases List.lookup_eq_some_iff.mp found with ⟨front, back, fieldsAre, _⟩
      simp [parts, fieldValues, fieldsAre]
  | null | bool | int | float | str | arr => simp [field?] at found

end ClassLift.Json

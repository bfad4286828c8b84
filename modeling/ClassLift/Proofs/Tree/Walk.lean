import ClassLift.Tree

/-!
# The walk visits the nodes of a tree in order

The walk keeps a list of trees that are still to be visited and takes the next
one from its front. What it finds is what the plain recursion finds, and the
nodes inside a node stand right behind it.
-/

namespace ClassLift.Json

theorem nodesOfItems_append (front back : List Json) :
    nodesOfItems (front ++ back) = nodesOfItems front ++ nodesOfItems back := by
  induction front with
  | nil => rfl
  | cons item rest ih => simp [nodesOfItems, ih]

theorem nodesOfItems_fieldValues (fields : List (String × Json)) :
    nodesOfItems (fieldValues fields) = nodesOfFields fields := by
  induction fields with
  | nil => rfl
  | cons field rest ih => simpa [fieldValues, nodesOfItems, nodesOfFields] using ih

/-- The pending trees give their nodes one tree after the other. -/
theorem pendingNodes_eq (pending : List Json) : pendingNodes pending = nodesOfItems pending := by
  fun_induction pendingNodes pending with
  | case1 => rfl
  | case2 items rest ih => rw [ih, nodesOfItems_append, nodesOfItems, nodes]
  | case3 fields rest inside hasType ih =>
      rw [show inside = _ from ih, nodesOfItems_append, nodesOfItems_fieldValues, nodesOfItems,
        nodes, if_pos hasType]
      rfl
  | case4 fields rest inside noType ih =>
      rw [show inside = _ from ih, nodesOfItems_append, nodesOfItems_fieldValues, nodesOfItems,
        nodes, if_neg noType, List.nil_append]
  | case5 _ ih | case6 _ _ ih | case7 _ _ ih | case8 _ _ ih | case9 _ _ ih =>
      rw [ih, nodesOfItems]
      simp [nodes]

theorem walk_eq_nodes (tree : Json) : tree.walk = tree.nodes := by
  rw [walk, pendingNodes_eq, nodesOfItems, nodesOfItems, List.append_nil]

/-! ## Nodes inside nodes -/

theorem nodes_infix_nodesOfFields {fields : List (String × Json)} {key : String} {value : Json}
    (found : fields.lookup key = some value) : value.nodes <:+: nodesOfFields fields := by
  induction fields with
  | nil => simp at found
  | cons field rest ih =>
      rcases field with ⟨otherKey, other⟩
      rw [nodesOfFields]
      by_cases same : key = otherKey
      · obtain rfl : other = value := by simpa [same] using found
        exact (List.prefix_append _ _).isInfix
      · have differs : (key == otherKey) = false := by simpa using same
        rw [List.lookup_cons, differs] at found
        exact (ih found).trans (List.suffix_append _ _).isInfix

/-- A node among the pending ones comes with all nodes inside it. -/
theorem nodes_infix_pendingNodes {pending : List Json} {node : Json}
    (isNode : node ∈ pendingNodes pending) :
    (∃ fields, node = .obj fields ∧ hasType fields = true) ∧
      node.nodes <:+: pendingNodes pending := by
  fun_induction pendingNodes pending with
  | case1 => simp at isNode
  | case2 items rest ih => exact ih isNode
  | case3 fields rest inside typed ih =>
      rcases List.mem_cons.mp isNode with rfl | isInside
      · have insideIs : inside = nodesOfFields fields ++ nodesOfItems rest := by
          rw [show inside = _ from pendingNodes_eq _, nodesOfItems_append,
            nodesOfItems_fieldValues]
        refine ⟨⟨fields, rfl, typed⟩, ?_⟩
        rw [nodes, if_pos typed, insideIs]
        exact (List.prefix_append _ _).isInfix
      · exact ⟨(ih isInside).1, (ih isInside).2.trans (List.suffix_cons _ _).isInfix⟩
  | case4 fields rest inside untyped ih => exact ih isNode
  | case5 _ ih | case6 _ _ ih | case7 _ _ ih | case8 _ _ ih | case9 _ _ ih =>
      exact ih isNode

theorem exists_fields_of_mem_nodes {tree node : Json} (isNode : node ∈ tree.nodes) :
    ∃ fields, node = .obj fields := by
  rw [← walk_eq_nodes, walk] at isNode
  rcases nodes_infix_pendingNodes isNode with ⟨⟨fields, rfl, _⟩, _⟩
  exact ⟨fields, rfl⟩

/-- Behind a node of a tree stand the nodes inside it, those of each of its fields together. -/
theorem exists_inside_of_mem_nodes {tree node : Json} (isNode : node ∈ tree.nodes) :
    ∃ front inside back, tree.nodes = front ++ node :: inside ++ back ∧
      ∀ key value, node.field? key = some value → value.nodes <:+: inside := by
  rw [← walk_eq_nodes, walk] at isNode
  rcases nodes_infix_pendingNodes isNode with ⟨⟨fields, rfl, typed⟩, front, back, nodesAre⟩
  rw [show pendingNodes [tree] = _ from walk_eq_nodes tree, nodes, if_pos typed] at nodesAre
  refine ⟨front, nodesOfFields fields, back, nodesAre.symm, ?_⟩
  intro key value found
  exact nodes_infix_nodesOfFields found

end ClassLift.Json

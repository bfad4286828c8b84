import Mathlib.Logic.Function.Iterate
import ClassLift.Proofs.Tree.Parts

/-!
# The order and the end of a walk

A walk can be run as a loop over a stack. Each round takes the top of the stack,
notes it if it is a node and puts its parts in its place, the first part on top.
The number of open visits of the stack goes down by one in each round, so the loop
ends, and what has been noted together with the nodes of the stack never changes.

The nodes that are noted stand in the order of their places: a place inside
another one comes after it, and of two places inside different parts of one tree
the one in the earlier part comes first. `Json.walk_isPreorder` says that a walk
finds the nodes at all places where there are some, each place once, in this order.
-/

namespace ClassLift.Json

/-! ## Rounds of the walk -/

/-- The nodes noted so far, and the trees to be visited with the next one at the end. -/
structure Walking where
  found : List Json
  stack : List Json

namespace Walking

def start (tree : Json) : Walking :=
  ⟨[], [tree]⟩

/-- One round; without a tree to visit nothing happens. -/
def round (walking : Walking) : Walking :=
  match walking.stack.getLast? with
  | none => walking
  | some tree =>
      ⟨walking.found ++ tree.ownNode, walking.stack.dropLast ++ tree.parts.reverse⟩

/-- The number of visits that the stack still takes. -/
def openVisits (walking : Walking) : Nat :=
  visitsOfItems walking.stack.reverse

/-- What has been noted, and what the stack will still give. -/
def allNodes (walking : Walking) : List Json :=
  walking.found ++ pendingNodes walking.stack.reverse

theorem round_append (found rest : List Json) (tree : Json) :
    round ⟨found, rest ++ [tree]⟩ = ⟨found ++ tree.ownNode, rest ++ tree.parts.reverse⟩ := by
  simp [round]

theorem stack_cases (walking : Walking) :
    walking.stack = [] ∨ ∃ rest tree, walking = ⟨walking.found, rest ++ [tree]⟩ := by
  rcases walking with ⟨found, stack⟩
  rcases List.eq_nil_or_concat stack with rfl | ⟨rest, tree, rfl⟩
  · simp
  · right
    exact ⟨rest, tree, by simp⟩

theorem visits_eq (tree : Json) : tree.visits = visitsOfItems tree.parts + 1 := by
  cases tree with
  | arr items => rfl
  | obj fields => rw [visits, parts, visitsOfItems_fieldValues]
  | null | bool | int | float | str => rfl

/-- A round takes one visit, as long as there is something to visit. -/
theorem openVisits_round (walking : Walking) :
    walking.round.openVisits = walking.openVisits - 1 := by
  rcases walking.stack_cases with empty | ⟨rest, tree, walkingIs⟩
  · simp [round, openVisits, empty, visitsOfItems]
  · rw [walkingIs, round_append]
    simp [openVisits, visitsOfItems_append, visitsOfItems, visits_eq]

theorem openVisits_eq_zero_iff (walking : Walking) :
    walking.openVisits = 0 ↔ walking.stack = [] := by
  rcases walking.stack_cases with empty | ⟨rest, tree, walkingIs⟩
  · simp [openVisits, empty, visitsOfItems]
  · rw [walkingIs]
    simp [openVisits, visitsOfItems, visits_eq]

/-- A round moves nodes from the stack to the noted ones and loses none. -/
theorem allNodes_round (walking : Walking) : walking.round.allNodes = walking.allNodes := by
  rcases walking.stack_cases with empty | ⟨rest, tree, walkingIs⟩
  · simp [round, empty]
  · rw [walkingIs, round_append]
    simp [allNodes, pendingNodes_eq, nodesOfItems_append, nodesOfItems, nodes_eq tree]

theorem openVisits_iterate (rounds : Nat) (walking : Walking) :
    (round^[rounds] walking).openVisits = walking.openVisits - rounds := by
  induction rounds generalizing walking with
  | zero => rfl
  | succ rounds ih =>
      rw [Function.iterate_succ_apply, ih, openVisits_round]
      omega

theorem allNodes_iterate (rounds : Nat) (walking : Walking) :
    (round^[rounds] walking).allNodes = walking.allNodes := by
  induction rounds generalizing walking with
  | zero => rfl
  | succ rounds ih => rw [Function.iterate_succ_apply, ih, allNodes_round]

/-- After as many rounds as the stack takes visits, all nodes are noted. -/
theorem iterate_openVisits (walking : Walking) :
    round^[walking.openVisits] walking = ⟨walking.allNodes, []⟩ := by
  have noneOpen := openVisits_iterate walking.openVisits walking
  rw [Nat.sub_self, openVisits_eq_zero_iff] at noneOpen
  have sameNodes := allNodes_iterate walking.openVisits walking
  generalize round^[walking.openVisits] walking = final at noneOpen sameNodes
  rcases final with ⟨found, stack⟩
  subst noneOpen
  rw [← sameNodes]
  simp [allNodes, pendingNodes]

theorem openVisits_start (tree : Json) : (start tree).openVisits = tree.visits := by
  simp [start, openVisits, visitsOfItems]

end Walking

/-! ## Places -/

/-- The tree at the place that the indices of parts lead to. -/
def at? (tree : Json) : List Nat → Option Json
  | [] => some tree
  | index :: below => (tree.parts[index]?).bind (at? · below)

/-- The order of places: outside before inside, and earlier parts before later ones. -/
inductive Before : List Nat → List Nat → Prop where
  | inside (place : List Nat) (index : Nat) (below : List Nat) :
      Before place (place ++ index :: below)
  | beside (place : List Nat) {index other : Nat} (earlier : index < other)
      (below otherBelow : List Nat) :
      Before (place ++ index :: below) (place ++ other :: otherBelow)

theorem Before.cons (index : Nat) {place other : List Nat} (before : Before place other) :
    Before (index :: place) (index :: other) := by
  cases before with
  | inside _ inner below => exact .inside (index :: place) inner below
  | beside shared earlier below otherBelow =>
      exact .beside (index :: shared) earlier below otherBelow

theorem Before.irrefl {place other : List Nat} (before : Before place other) : place ≠ other := by
  cases before with
  | inside _ index below => simp
  | beside shared earlier below otherBelow =>
      intro same
      simp only [List.append_cancel_left_eq, List.cons.injEq] at same
      omega

mutual

/-- The places of the nodes of a tree in source order. -/
def nodePlaces : Json → List (List Nat)
  | .arr items => nodePlacesOfItems 0 items
  | .obj fields => (if hasType fields then [[]] else []) ++ nodePlacesOfFields 0 fields
  | _ => []

def nodePlacesOfItems (index : Nat) : List Json → List (List Nat)
  | [] => []
  | item :: rest => item.nodePlaces.map (index :: ·) ++ nodePlacesOfItems (index + 1) rest

def nodePlacesOfFields (index : Nat) : List (String × Json) → List (List Nat)
  | [] => []
  | (_, value) :: rest =>
      value.nodePlaces.map (index :: ·) ++ nodePlacesOfFields (index + 1) rest

end

theorem nodePlacesOfItems_fieldValues (index : Nat) (fields : List (String × Json)) :
    nodePlacesOfItems index (fieldValues fields) = nodePlacesOfFields index fields := by
  induction fields generalizing index with
  | nil => rfl
  | cons field rest ih =>
      simpa [fieldValues, nodePlacesOfItems, nodePlacesOfFields] using ih (index + 1)

theorem nodePlaces_eq (tree : Json) :
    tree.nodePlaces = (if tree.isNode then [[]] else []) ++ nodePlacesOfItems 0 tree.parts := by
  cases tree with
  | arr items => rfl
  | obj fields => rw [nodePlaces, parts, nodePlacesOfItems_fieldValues, isNode]
  | null | bool | int | float | str => rfl

theorem mem_nodePlacesOfItems_iff {start : Nat} {items : List Json} {place : List Nat} :
    place ∈ nodePlacesOfItems start items ↔
      ∃ index item below, items[index]? = some item ∧ place = (start + index) :: below ∧
        below ∈ item.nodePlaces := by
  induction items generalizing start with
  | nil => simp [nodePlacesOfItems]
  | cons item rest ih =>
      rw [nodePlacesOfItems, List.mem_append, List.mem_map, ih]
      constructor
      · rintro (⟨below, isPlace, rfl⟩ | ⟨index, other, below, found, rfl, isPlace⟩)
        · exact ⟨0, item, below, rfl, rfl, isPlace⟩
        · exact ⟨index + 1, other, below, by simpa using found, by simp; omega, isPlace⟩
      · rintro ⟨index, other, below, found, rfl, isPlace⟩
        cases index with
        | zero =>
            obtain rfl : item = other := by simpa using found
            exact .inl ⟨below, isPlace, rfl⟩
        | succ index =>
            right
            exact ⟨index, other, below, by simpa using found, by simp; omega, isPlace⟩

/-- The listed places are those at which there is a node. -/
theorem mem_nodePlaces_iff {tree : Json} {place : List Nat} :
    place ∈ tree.nodePlaces ↔ ∃ node, tree.at? place = some node ∧ node.isNode = true := by
  induction tree using partsInduction generalizing place with
  | step tree ih =>
      rw [nodePlaces_eq, List.mem_append, mem_nodePlacesOfItems_iff]
      cases place with
      | nil => simp [at?]
      | cons index below =>
          have notOwn : index :: below ∉ (if tree.isNode then [[]] else []) := by
            split <;> simp
          simp only [notOwn, false_or, at?, Option.bind_eq_some_iff]
          constructor
          · rintro ⟨partIndex, part, partBelow, found, placeIs, isPlace⟩
            obtain ⟨rfl, rfl⟩ : index = partIndex ∧ below = partBelow := by simpa using placeIs
            rcases (ih part (List.mem_of_getElem? found)).mp isPlace with ⟨node, isThere, isNode⟩
            exact ⟨node, ⟨part, found, isThere⟩, isNode⟩
          · rintro ⟨node, ⟨part, found, isThere⟩, isNode⟩
            refine ⟨index, part, below, found, by simp, ?_⟩
            exact (ih part (List.mem_of_getElem? found)).mpr ⟨node, isThere, isNode⟩

theorem pairwise_nodePlacesOfItems {start : Nat} {items : List Json}
    (ordered : ∀ item ∈ items, item.nodePlaces.Pairwise Before) :
    (nodePlacesOfItems start items).Pairwise Before := by
  induction items generalizing start with
  | nil => exact .nil
  | cons item rest ih =>
      rcases List.forall_mem_cons.mp ordered with ⟨itemOrdered, restOrdered⟩
      rw [nodePlacesOfItems, List.pairwise_append, List.pairwise_map]
      refine ⟨itemOrdered.imp (Before.cons start), ih restOrdered, ?_⟩
      -- A place in this item and one in a later item differ in their first index.
      intro place isHere other isLater
      rcases List.mem_map.mp isHere with ⟨below, _, rfl⟩
      rcases mem_nodePlacesOfItems_iff.mp isLater with ⟨index, _, otherBelow, _, rfl, _⟩
      exact .beside [] (by omega) below otherBelow

theorem pairwise_nodePlaces (tree : Json) : tree.nodePlaces.Pairwise Before := by
  induction tree using partsInduction with
  | step tree ih =>
      rw [nodePlaces_eq, List.pairwise_append]
      refine ⟨by split <;> simp, pairwise_nodePlacesOfItems ih, ?_⟩
      intro place isOwn other isInside
      obtain rfl : place = [] := by
        split at isOwn
        · simpa using isOwn
        · simp at isOwn
      rcases mem_nodePlacesOfItems_iff.mp isInside with ⟨index, _, below, _, rfl, _⟩
      exact .inside [] (0 + index) below

theorem map_at?_nodePlacesOfItems {tree : Json} (front : List Json) {items : List Json}
    (partsAre : tree.parts = front ++ items)
    (itemNodes : ∀ item ∈ items, item.nodePlaces.map item.at? = item.nodes.map some) :
    (nodePlacesOfItems front.length items).map tree.at? = (nodesOfItems items).map some := by
  induction items generalizing front with
  | nil => rfl
  | cons item rest ih =>
      rcases List.forall_mem_cons.mp itemNodes with ⟨here, later⟩
      have partIs : tree.parts[front.length]? = some item := by simp [partsAre]
      have below : tree.at? ∘ (front.length :: ·) = item.at? := by
        funext place
        simp [at?, partIs]
      have restNodes := ih (front ++ [item]) (by simp [partsAre]) later
      rw [List.length_append, List.length_singleton] at restNodes
      rw [nodePlacesOfItems, nodesOfItems, List.map_append, List.map_append, List.map_map, below,
        here, restNodes]

/-- The nodes of a tree are what is found at the listed places. -/
theorem map_at?_nodePlaces (tree : Json) : tree.nodePlaces.map tree.at? = tree.nodes.map some := by
  induction tree using partsInduction with
  | step tree ih =>
      have inside := map_at?_nodePlacesOfItems [] rfl ih
      rw [nodePlaces_eq, nodes_eq, List.map_append, List.map_append]
      congr 1
      rw [ownNode]
      split <;> rfl

/-! ## The walk -/

/-- What it means that a list of trees is the outcome of a walk in source order. -/
structure IsPreorder (tree : Json) (found : List Json) : Prop where
  isRecursive : found = tree.nodes
  ofList : ∀ items, tree = .arr items → found = items.flatMap walk
  ofObject : ∀ fields, tree = .obj fields →
    found = (if (fields.lookup "type").isSome then [tree] else []) ++
      fields.flatMap fun field => walk field.2
  ofScalar : (∀ items, tree ≠ .arr items) → (∀ fields, tree ≠ .obj fields) → found = []
  byPlace : ∃ places : List (List Nat), places.map tree.at? = found.map some ∧
    places.Pairwise Before ∧ places.Nodup ∧ ∀ place, place ∈ places ↔
      ∃ fields, tree.at? place = some (.obj fields) ∧ (fields.lookup "type").isSome = true

theorem isNode_iff {tree : Json} :
    tree.isNode = true ↔ ∃ fields, tree = .obj fields ∧ (fields.lookup "type").isSome = true := by
  cases tree <;> simp [isNode, hasType]

theorem nodes_isPreorder (tree : Json) : IsPreorder tree tree.nodes where
  isRecursive := rfl
  ofList := by
    rintro items rfl
    simp [nodes, nodesOfItems_eq_flatMap, funext walk_eq_nodes]
  ofObject := by
    rintro fields rfl
    simp only [nodes, ← nodesOfItems_fieldValues, nodesOfItems_eq_flatMap, fieldValues,
      List.flatMap_map, walk_eq_nodes]
    rfl
  ofScalar := by
    intro noList noObject
    cases tree with
    | arr items => exact absurd rfl (noList items)
    | obj fields => exact absurd rfl (noObject fields)
    | null | bool | int | float | str => rfl
  byPlace := by
    refine ⟨tree.nodePlaces, map_at?_nodePlaces tree, pairwise_nodePlaces tree,
      (pairwise_nodePlaces tree).imp Before.irrefl, ?_⟩
    intro place
    rw [mem_nodePlaces_iff]
    constructor
    · rintro ⟨node, isThere, isNode⟩
      rcases isNode_iff.mp isNode with ⟨fields, rfl, typed⟩
      exact ⟨fields, isThere, typed⟩
    · rintro ⟨fields, isThere, typed⟩
      exact ⟨_, isThere, isNode_iff.mpr ⟨fields, rfl, typed⟩⟩

/--
The walk of a tree ends after as many rounds as the tree takes visits and no
sooner, and gives the nodes of the tree in source order.
-/
theorem walk_isPreorder (tree : Json) :
    Walking.round^[tree.visits] (Walking.start tree) = ⟨tree.walk, []⟩ ∧
      (∀ rounds < tree.visits, (Walking.round^[rounds] (Walking.start tree)).stack ≠ []) ∧
      IsPreorder tree tree.walk := by
  refine ⟨?_, ?_, ?_⟩
  · have ends := (Walking.start tree).iterate_openVisits
    rwa [Walking.openVisits_start] at ends
  · intro rounds early isEmpty
    rw [← Walking.openVisits_eq_zero_iff, Walking.openVisits_iterate,
      Walking.openVisits_start] at isEmpty
    omega
  · rw [walk_eq_nodes]
    exact nodes_isPreorder tree

end ClassLift.Json

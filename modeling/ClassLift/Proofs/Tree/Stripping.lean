import Mathlib.Data.List.Flatten
import ClassLift.Proofs.Tree.Locations
import ClassLift.Proofs.Tree.Paths
import ClassLift.Proofs.Tree.Preorder

/-!
# What goes with the locations of a tree

A path leads to something in a stripped tree exactly if it leads to something in
the tree and goes into no location, and what is there is what was there before, but
for the fields that hold locations. So a second stripping finds nothing to remove,
only a tree without locations stays as it is, and a walk finds the nodes of the
stripped tree in the order in which it finds them in the tree.
-/

namespace ClassLift.Json

/-- A key under which a location is kept. -/
def IsLocation (key : String) : Prop :=
  key ∈ ["start", "end", "range", "loc"]

instance : DecidablePred IsLocation :=
  fun key => inferInstanceAs (Decidable (key ∈ ["start", "end", "range", "loc"]))

theorem isLocationKey_iff {key : String} : isLocationKey key = true ↔ IsLocation key :=
  List.contains_iff_mem

/-- The keys of a tree itself, if it is an object. -/
def ownKeys : Json → List String
  | .obj fields => fields.map Prod.fst
  | _ => []

/-! ## Fields -/

theorem stripFields_eq (fields : List (String × Json)) :
    stripFields fields =
      (fields.filter fun field => ¬IsLocation field.1).map
        fun field => (field.1, field.2.stripLocations) := by
  induction fields with
  | nil => rfl
  | cons field rest ih =>
      rcases field with ⟨key, value⟩
      by_cases isLocation : IsLocation key
      · rw [stripFields, if_pos (isLocationKey_iff.mpr isLocation), ih,
          List.filter_cons_of_neg (by simpa using isLocation)]
      · rw [stripFields, if_neg (mt isLocationKey_iff.mp isLocation), ih,
          List.filter_cons_of_pos (by simpa using isLocation), List.map_cons]

theorem keys_stripFields (fields : List (String × Json)) :
    (stripFields fields).map Prod.fst = (fields.map Prod.fst).filter (¬IsLocation ·) := by
  rw [stripFields_eq, List.map_map, List.filter_map]
  rfl

theorem lookup_stripFields_of_isLocation {key : String} (isLocation : IsLocation key)
    (fields : List (String × Json)) : (stripFields fields).lookup key = none := by
  rw [List.lookup_eq_none_iff]
  intro field isField
  have isKept : field.1 ∈ (fields.map Prod.fst).filter (¬IsLocation ·) := by
    rw [← keys_stripFields]
    exact List.mem_map_of_mem isField
  have notLocation : ¬IsLocation field.1 := by simpa using (List.mem_filter.mp isKept).2
  rw [bne_iff_ne]
  rintro rfl
  exact notLocation isLocation

theorem stripFields_eq_self_iff {fields : List (String × Json)} :
    stripFields fields = fields ↔
      (∀ key ∈ fields.map Prod.fst, ¬IsLocation key) ∧
        ∀ value ∈ fieldValues fields, value.stripLocations = value := by
  induction fields with
  | nil => simp [stripFields, fieldValues]
  | cons field rest ih =>
      rcases field with ⟨key, value⟩
      by_cases isLocation : IsLocation key
      · have shorter : (stripFields rest).length ≤ rest.length := by
          rw [stripFields_eq, List.length_map]
          exact List.length_filter_le _ rest
        have differ : stripFields rest ≠ (key, value) :: rest := by
          intro same
          rw [same, List.length_cons] at shorter
          omega
        rw [stripFields, if_pos (isLocationKey_iff.mpr isLocation)]
        simp [differ, isLocation]
      · rw [stripFields, if_neg (mt isLocationKey_iff.mp isLocation), List.cons.injEq, ih]
        simp only [fieldValues, List.map_cons, List.forall_mem_cons, Prod.mk.injEq, true_and,
          isLocation, not_false_iff]
        exact and_left_comm

/-! ## Paths -/

/-- Whether a step goes into a location. -/
def Step.isLocation : Step → Bool
  | .key name => IsLocation name
  | .index _ => false

theorem part?_stripLocations (tree : Json) (step : Step) :
    tree.stripLocations.part? step =
      if step.isLocation then none else (tree.part? step).map stripLocations := by
  cases step with
  | key name =>
      by_cases isLocation : IsLocation name
      · rw [Step.isLocation, if_pos (by simpa using isLocation)]
        cases tree with
        | obj fields => exact lookup_stripFields_of_isLocation isLocation fields
        | null | bool | int | float | str | arr => rfl
      · have kept : isLocationKey name = false := by
          rw [← Bool.not_eq_true, isLocationKey_iff]
          exact isLocation
        rw [Step.isLocation, if_neg (by simpa using isLocation)]
        exact field?_stripLocations kept tree
  | index position =>
      rw [Step.isLocation, if_neg Bool.false_ne_true]
      cases tree with
      | arr items => simp [part?]
      | null | bool | int | float | str | obj => rfl

/-- What a path leads to in a stripped tree, if none of its steps goes into a location. -/
theorem follow?_stripLocations (tree : Json) (path : List Step) :
    tree.stripLocations.follow? path =
      if path.any Step.isLocation then none else (tree.follow? path).map stripLocations := by
  induction path generalizing tree with
  | nil => rfl
  | cons step rest ih =>
      rw [follow?, part?_stripLocations, follow?, List.any_cons]
      cases step.isLocation with
      | true => rfl
      | false =>
          rw [if_neg Bool.false_ne_true, Bool.false_or]
          cases tree.part? step with
          | none => simp
          | some part => simpa using ih part

theorem any_isLocation_iff {path : List Step} :
    path.any Step.isLocation = true ↔ ∃ key, Step.key key ∈ path ∧ IsLocation key := by
  rw [List.any_eq_true]
  constructor
  · rintro ⟨step, isStep, isLocation⟩
    cases step with
    | key name => exact ⟨name, isStep, by simpa [Step.isLocation] using isLocation⟩
    | index position => simp [Step.isLocation] at isLocation
  · rintro ⟨key, isStep, isLocation⟩
    exact ⟨.key key, isStep, by simpa [Step.isLocation] using isLocation⟩

/--
What stays of a value when its locations go: a scalar stays the same, a list as long
as it is, and an object has its other keys in the same order.
-/
inductive StaysOf : Json → Json → Prop where
  | null : StaysOf .null .null
  | bool (value : Bool) : StaysOf (.bool value) (.bool value)
  | int (value : Int) : StaysOf (.int value) (.int value)
  | float (value : Binary64) : StaysOf (.float value) (.float value)
  | str (text : String) : StaysOf (.str text) (.str text)
  | arr {items bareItems : List Json} (sameLength : bareItems.length = items.length) :
      StaysOf (.arr items) (.arr bareItems)
  | obj {fields bareFields : List (String × Json)}
      (otherKeys : bareFields.map Prod.fst = (fields.map Prod.fst).filter (¬IsLocation ·)) :
      StaysOf (.obj fields) (.obj bareFields)

theorem staysOf_stripLocations (tree : Json) : StaysOf tree tree.stripLocations := by
  cases tree with
  | null => exact .null
  | bool value => exact .bool value
  | int value => exact .int value
  | float value => exact .float value
  | str text => exact .str text
  | arr items =>
      rw [stripLocations_arr]
      exact .arr (List.length_map _)
  | obj fields => exact .obj (keys_stripFields fields)

/-- What it means that a tree is another one without its locations. -/
structure IsStripped (tree bare : Json) : Prop where
  leads_iff : ∀ path, (bare.follow? path).isSome = true ↔
    (tree.follow? path).isSome = true ∧ ∀ key, Step.key key ∈ path → ¬IsLocation key
  stays : ∀ path bareValue, bare.follow? path = some bareValue →
    ∃ value, tree.follow? path = some value ∧ StaysOf value bareValue

theorem isStripped_stripLocations (tree : Json) : IsStripped tree tree.stripLocations where
  leads_iff := by
    intro path
    rw [follow?_stripLocations]
    by_cases anyLocation : path.any Step.isLocation = true
    · rcases any_isLocation_iff.mp anyLocation with ⟨key, isStep, isLocation⟩
      rw [if_pos anyLocation]
      constructor
      · simp
      · rintro ⟨_, noLocation⟩
        exact absurd isLocation (noLocation key isStep)
    · rw [if_neg anyLocation, Option.isSome_map]
      constructor
      · intro leads
        refine ⟨leads, ?_⟩
        intro key isStep isLocation
        exact anyLocation (any_isLocation_iff.mpr ⟨key, isStep, isLocation⟩)
      · exact And.left
  stays := by
    intro path bareValue leads
    rw [follow?_stripLocations] at leads
    split at leads
    · simp at leads
    · rcases Option.map_eq_some_iff.mp leads with ⟨value, isThere, rfl⟩
      exact ⟨value, isThere, staysOf_stripLocations value⟩

/-! ## Trees that stay as they are -/

/--
A tree in which no object, at any depth, has a location. Places are used for this,
since no path leads to a field behind another one of the same key.
-/
def HasNoLocations (tree : Json) : Prop :=
  ∀ place part, tree.at? place = some part → ∀ key ∈ part.ownKeys, ¬IsLocation key

theorem hasNoLocations_iff {tree : Json} :
    tree.HasNoLocations ↔
      (∀ key ∈ tree.ownKeys, ¬IsLocation key) ∧ ∀ part ∈ tree.parts, part.HasNoLocations := by
  constructor
  · intro noLocations
    refine ⟨noLocations [] tree rfl, ?_⟩
    intro part isPart place inner isThere
    rcases List.getElem?_of_mem isPart with ⟨index, partIs⟩
    apply noLocations (index :: place)
    rw [at?, partIs, Option.bind_some, isThere]
  · rintro ⟨own, inParts⟩ place inner isThere
    cases place with
    | nil =>
        obtain rfl : tree = inner := Option.some.inj isThere
        exact own
    | cons index below =>
        rcases Option.bind_eq_some_iff.mp isThere with ⟨part, partIs, isBelow⟩
        exact inParts part (List.mem_of_getElem? partIs) below inner isBelow

theorem stripLocations_eq_self_iff_parts {tree : Json} :
    tree.stripLocations = tree ↔
      (∀ key ∈ tree.ownKeys, ¬IsLocation key) ∧ ∀ part ∈ tree.parts, part.stripLocations = part := by
  cases tree with
  | arr items =>
      have sameItems := @List.map_inj_left _ _ items stripLocations id
      simpa [ownKeys, parts] using sameItems
  | obj fields =>
      rw [stripLocations, Json.obj.injEq]
      exact stripFields_eq_self_iff
  | null | bool | int | float | str => simp [stripLocations, ownKeys, parts]

/-- Stripping changes a tree only if it has locations. -/
theorem stripLocations_eq_self_iff {tree : Json} :
    tree.stripLocations = tree ↔ tree.HasNoLocations := by
  induction tree using partsInduction with
  | step tree ih =>
      rw [stripLocations_eq_self_iff_parts, hasNoLocations_iff]
      exact and_congr_right fun _ => forall₂_congr ih

theorem parts_stripLocations_sublist (tree : Json) :
    tree.stripLocations.parts.Sublist (tree.parts.map stripLocations) := by
  cases tree with
  | arr items => simp [parts]
  | obj fields =>
      simp only [stripLocations, parts, fieldValues, stripFields_eq, List.map_map]
      exact List.filter_sublist.map _
  | null | bool | int | float | str => exact .slnil

theorem not_isLocation_of_mem_ownKeys {tree : Json} :
    ∀ key ∈ tree.stripLocations.ownKeys, ¬IsLocation key := by
  cases tree with
  | obj fields =>
      intro key isKey
      rw [stripLocations, ownKeys, keys_stripFields] at isKey
      simpa using (List.mem_filter.mp isKey).2
  | null | bool | int | float | str | arr => simp [stripLocations, ownKeys]

theorem stripLocations_stripLocations (tree : Json) :
    tree.stripLocations.stripLocations = tree.stripLocations := by
  induction tree using partsInduction with
  | step tree ih =>
      rw [stripLocations_eq_self_iff_parts]
      refine ⟨not_isLocation_of_mem_ownKeys, ?_⟩
      intro part isPart
      have isStrippedPart := (parts_stripLocations_sublist tree).subset isPart
      rcases List.mem_map.mp isStrippedPart with ⟨original, isOriginal, rfl⟩
      exact ih original isOriginal

/-! ## Nodes -/

theorem ownNode_stripLocations (tree : Json) :
    tree.stripLocations.ownNode = tree.ownNode.map stripLocations := by
  have sameKind : tree.stripLocations.isNode = tree.isNode := by
    cases tree with
    | obj fields =>
        have typeKept := lookup_stripFields (show isLocationKey "type" = false by decide) fields
        simp only [stripLocations, isNode, hasType, typeKept, Option.isSome_map]
    | null | bool | int | float | str | arr => rfl
  rw [ownNode, ownNode, sameKind]
  cases tree.isNode <;> rfl

/-- Stripping keeps the nodes of a tree in order and adds none. -/
theorem nodes_stripLocations_sublist (tree : Json) :
    tree.stripLocations.nodes.Sublist (tree.nodes.map stripLocations) := by
  induction tree using partsInduction with
  | step tree ih =>
      have inParts : (nodesOfItems tree.stripLocations.parts).Sublist
          ((nodesOfItems tree.parts).map stripLocations) := by
        rw [nodesOfItems_eq_flatMap, nodesOfItems_eq_flatMap, List.map_flatMap]
        apply ((parts_stripLocations_sublist tree).flatMap nodes).trans
        rw [List.flatMap_map]
        exact List.Sublist.flatMap_right _ ih
      rw [nodes_eq, nodes_eq tree, List.map_append, ownNode_stripLocations]
      exact (List.Sublist.refl _).append inParts

/--
Stripping removes the locations of a tree and nothing else. Doing it again changes
nothing, trees without locations are those that it does not change at all, and the
nodes that a walk still finds are found in the same order.
-/
theorem stripLocations_removesLocations (tree : Json) :
    IsStripped tree tree.stripLocations ∧
      tree.stripLocations.stripLocations = tree.stripLocations ∧
      (tree.stripLocations = tree ↔ tree.HasNoLocations) ∧
      tree.stripLocations.walk.Sublist (tree.walk.map stripLocations) := by
  refine ⟨isStripped_stripLocations tree, stripLocations_stripLocations tree,
    stripLocations_eq_self_iff, ?_⟩
  rw [walk_eq_nodes, walk_eq_nodes]
  exact nodes_stripLocations_sublist tree

example :
    (Node.ofType "Literal" [("loc", Node.ofType "Range" []), ("value", .int 1)]).stripLocations =
      Node.literal (.int 1) := rfl

end ClassLift.Json

import ClassLift.Json.Basic

/-!
# Trees of a program

What is asked of a whole program at once: which nodes it has, at any depth, and
what it is without its source locations.
-/

namespace ClassLift.Json

/-!
### Walking a tree

The nodes of a tree are its objects that have a type, at any depth, each before
the nodes inside it and in the order of the source. `nodes` says this by
recursion on the tree; `pendingNodes` finds the same nodes with a list of trees
still to be visited.
-/

def hasType (fields : List (String × Json)) : Bool :=
  (fields.lookup "type").isSome

mutual

/-- The nodes of a tree in source order. -/
def nodes : Json → List Json
  | .arr items => nodesOfItems items
  | .obj fields =>
      (if hasType fields then [.obj fields] else []) ++ nodesOfFields fields
  | _ => []

def nodesOfItems : List Json → List Json
  | [] => []
  | item :: rest => item.nodes ++ nodesOfItems rest

def nodesOfFields : List (String × Json) → List Json
  | [] => []
  | (_, value) :: rest => value.nodes ++ nodesOfFields rest

end

mutual

/-- The number of visits a walk of the tree takes. -/
def visits : Json → Nat
  | .arr items => visitsOfItems items + 1
  | .obj fields => visitsOfFields fields + 1
  | _ => 1

def visitsOfItems : List Json → Nat
  | [] => 0
  | item :: rest => item.visits + visitsOfItems rest

def visitsOfFields : List (String × Json) → Nat
  | [] => 0
  | (_, value) :: rest => value.visits + visitsOfFields rest

end

theorem visitsOfItems_append (front back : List Json) :
    visitsOfItems (front ++ back) = visitsOfItems front + visitsOfItems back := by
  induction front with
  | nil => simp [visitsOfItems]
  | cons item rest ih => simp [visitsOfItems, ih, Nat.add_assoc]

/-- The values of an object's fields in order. -/
def fieldValues (fields : List (String × Json)) : List Json :=
  fields.map Prod.snd

theorem visitsOfItems_fieldValues (fields : List (String × Json)) :
    visitsOfItems (fieldValues fields) = visitsOfFields fields := by
  induction fields with
  | nil => rfl
  | cons field rest ih =>
    simpa [fieldValues, visitsOfItems, visitsOfFields] using ih

/-- The nodes of the pending trees, the next tree first. -/
def pendingNodes : List Json → List Json
  | [] => []
  | .arr items :: rest => pendingNodes (items ++ rest)
  | .obj fields :: rest =>
      let inside := pendingNodes (fieldValues fields ++ rest)
      if hasType fields then .obj fields :: inside else inside
  | .null :: rest | .bool _ :: rest | .int _ :: rest | .float _ :: rest | .str _ :: rest =>
      pendingNodes rest
termination_by pending => visitsOfItems pending
decreasing_by
  all_goals
    simp only [visitsOfItems, visits, visitsOfItems_append,
      visitsOfItems_fieldValues]
    omega

/-- The nodes of a tree, found with a list of trees still to be visited. -/
def walk (tree : Json) : List Json :=
  pendingNodes [tree]

/-!
### Source locations

A parsed program says of each node where it stands in the source. In a generated
program these fields are meaningless and can be dropped.
-/

/-- The keys under which a parser keeps locations. -/
def locationKeys : List String :=
  ["start", "end", "range", "loc"]

def isLocationKey (key : String) : Bool :=
  locationKeys.contains key

mutual

/-- The tree without the location fields of its objects. -/
def stripLocations : Json → Json
  | .arr items => .arr (stripItems items)
  | .obj fields => .obj (stripFields fields)
  | other => other

def stripItems : List Json → List Json
  | [] => []
  | item :: rest => item.stripLocations :: stripItems rest

def stripFields : List (String × Json) → List (String × Json)
  | [] => []
  | (key, value) :: rest =>
      if isLocationKey key then stripFields rest
      else (key, value.stripLocations) :: stripFields rest

end

end ClassLift.Json

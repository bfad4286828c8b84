import ClassLift.Failure

/-!
# Reading the parts of a tree

Look-ups that fail when the value does not have the shape they need.
-/

namespace ClassLift.Json

/-- A field of an object, null if it is not there. -/
def field (key : String) : Json → Except Failure Json
  | .obj fields => .ok ((fields.lookup key).getD .null)
  | _ => .error (.shape .noFields)

/-- A field of an object, or the given value if it is not there. -/
def fieldOr (key : String) (value fallback : Json) : Except Failure Json :=
  match value with
  | .obj fields => .ok ((fields.lookup key).getD fallback)
  | _ => .error (.shape .noFields)

/-- A field that an object must have. -/
def required (key : String) : Json → Except Failure Json
  | .obj fields =>
      match fields.lookup key with
      | some value => .ok value
      | none => .error (.shape .missingField)
  | _ => .error (.shape .noParts)

/-- The elements of a value: items of a list, characters of a string, keys of an object. -/
def elements : Json → Except Failure (List Json)
  | .arr items => .ok items
  | .str text => .ok (text.toList.map fun character => .str (String.ofList [character]))
  | .obj fields => .ok (fields.map fun (key, _) => .str key)
  | _ => .error (.shape .noElements)

/-- How many elements a value has. -/
def length : Json → Except Failure Nat
  | .arr items => .ok items.length
  | .str text => .ok text.toList.length
  | .obj fields => .ok fields.length
  | _ => .error (.shape .noLength)

/-- Selects the first element by its position, which an object does not offer. -/
def first : Json → Except Failure Json
  | .arr (item :: _) => .ok item
  | .arr [] => .error (.shape .noParts)
  | .str text =>
      match text.toList with
      | character :: _ => .ok (.str (String.ofList [character]))
      | [] => .error (.shape .noParts)
  | .obj _ => .error (.shape .missingField)
  | _ => .error (.shape .noParts)

/-- Changes the value of a field where it stands. -/
def updateFields (key : String) (change : Json → Json) :
    List (String × Json) → List (String × Json)
  | [] => []
  | (otherKey, value) :: rest =>
      if otherKey = key then (otherKey, change value) :: rest
      else (otherKey, value) :: updateFields key change rest

/-- Changes a field of an object; a value without that field stays as it is. -/
def update (key : String) (change : Json → Json) : Json → Json
  | .obj fields => .obj (updateFields key change fields)
  | other => other

end ClassLift.Json

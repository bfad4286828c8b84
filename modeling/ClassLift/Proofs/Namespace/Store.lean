import ClassLift.Number.Binary64

/-!
# The store of a running program

What a program reaches from its global object is held as a tree: an object has
members, and those of them that are objects have members again. A location is
the list of names that leads from the global object to a value. Each object has
an identity, by which it differs from any other object with the same members,
and a store knows which identity the next new object gets.

Members are read and written strictly: what is no object has none. So a program
that runs to its end has never touched a member of a missing container.
-/

namespace ClassLift

/-- A value without members. -/
inductive Scalar where
  | undefined
  | null
  | bool (value : Bool)
  | number (value : Binary64)
  | bigint (value : Int)
  | text (value : String)
  | symbol (description : String)
deriving DecidableEq

def Scalar.isTruthy : Scalar → Bool
  | .undefined | .null => false
  | .bool value => value
  | .number value =>
      let isNotANumber := !value.isFinite && value.fractionField != 0
      !value.isZero && !isNotANumber
  | .bigint value => value != 0
  | .text value => value != ""
  | .symbol _ => true

/-- A value: a scalar, or an object with its members. -/
inductive Value where
  | scalar (value : Scalar)
  | object (identity : Nat) (members : List (String × Value))

/-- What a value is without its members: a scalar, or an object of some identity. -/
inductive Content where
  | scalar (value : Scalar)
  | object (identity : Nat)
deriving DecidableEq

namespace Value

def undefined : Value :=
  .scalar .undefined

def isTruthy : Value → Bool
  | .scalar value => value.isTruthy
  | .object _ _ => true

def content : Value → Content
  | .scalar value => .scalar value
  | .object identity _ => .object identity

/-- The member that an object has under a name. -/
def member? (value : Value) (name : String) : Option Value :=
  match value with
  | .object _ members => members.lookup name
  | .scalar _ => none

/-- Reads a member, which must be one of an object; a member that is missing is undefined. -/
def read? (value : Value) (name : String) : Option Value :=
  match value with
  | .object _ members => some ((members.lookup name).getD undefined)
  | .scalar _ => none

def setMember (name : String) (new : Value) : List (String × Value) → List (String × Value)
  | [] => [(name, new)]
  | (otherName, other) :: rest =>
      if otherName = name then (name, new) :: rest
      else (otherName, other) :: setMember name new rest

/-- Writes a value at a location, whose containers must all be objects. -/
def put? : Value → List String → Value → Option Value
  | _, [], new => some new
  | .object identity members, name :: rest, new =>
      (put? ((members.lookup name).getD undefined) rest new).map fun changed =>
        .object identity (setMember name changed members)
  | .scalar _, _ :: _, _ => none

/-- What stands at a location. -/
def at? (value : Value) (location : List String) : Option Value :=
  location.foldlM member? value

/-- The members of an object have no part in whether it counts as true. -/
theorem isTruthy_congr {value other : Value} (same : value.content = other.content) :
    value.isTruthy = other.isTruthy := by
  cases value with
  | scalar scalar =>
      cases other with
      | scalar otherScalar =>
          obtain rfl : scalar = otherScalar := by simpa [content] using same
          rfl
      | object => simp [content] at same
  | object =>
      cases other with
      | scalar => simp [content] at same
      | object => rfl

theorem lookup_setMember (name : String) (new : Value) (members : List (String × Value)) :
    (setMember name new members).lookup name = some new := by
  induction members with
  | nil => simp [setMember]
  | cons entry rest ih =>
      rcases entry with ⟨otherName, other⟩
      by_cases same : otherName = name
      · simp [setMember, same]
      · have differs : (name == otherName) = false := by simpa using Ne.symm same
        simp [setMember, same, List.lookup_cons, differs, ih]

theorem lookup_setMember_of_ne {name otherName : String} (differ : otherName ≠ name)
    (new : Value) (members : List (String × Value)) :
    (setMember name new members).lookup otherName = members.lookup otherName := by
  induction members with
  | nil =>
      have differs : (otherName == name) = false := by simpa using differ
      simp [setMember, List.lookup_cons, differs]
  | cons entry rest ih =>
      rcases entry with ⟨entryName, value⟩
      by_cases same : entryName = name
      · have differs : (otherName == name) = false := by simpa using differ
        simp [setMember, same, List.lookup_cons, differs]
      · simp [setMember, same, List.lookup_cons, ih]

theorem setMember_eq_self {name : String} {value : Value} {members : List (String × Value)}
    (found : members.lookup name = some value) : setMember name value members = members := by
  induction members with
  | nil => simp at found
  | cons entry rest ih =>
      rcases entry with ⟨entryName, other⟩
      by_cases same : entryName = name
      · obtain rfl : other = value := by simpa [same] using found
        simp [setMember, same]
      · have differs : (name == entryName) = false := by simpa using Ne.symm same
        have restStays : setMember name value rest = rest := by
          apply ih
          simpa [List.lookup_cons, differs] using found
        simp [setMember, same, restStays]

@[simp]
theorem at?_nil (value : Value) : value.at? [] = some value :=
  rfl

theorem at?_object_cons (identity : Nat) (members : List (String × Value)) (name : String)
    (rest : List String) :
    (object identity members).at? (name :: rest) =
      (members.lookup name).bind (·.at? rest) :=
  rfl

@[simp]
theorem at?_scalar_cons (value : Scalar) (name : String) (rest : List String) :
    (scalar value).at? (name :: rest) = none :=
  rfl

theorem at?_append (value : Value) (front back : List String) :
    value.at? (front ++ back) = (value.at? front).bind (·.at? back) :=
  List.foldlM_append

/-- Writing back what stands at a location changes nothing. -/
theorem put?_eq_self {value new : Value} {location : List String}
    (found : value.at? location = some new) : value.put? location new = some value := by
  induction location generalizing value with
  | nil => exact found.symm
  | cons name rest ih =>
      cases value with
      | scalar => simp at found
      | object identity members =>
          rw [at?_object_cons, Option.bind_eq_some_iff] at found
          rcases found with ⟨inner, isMember, found⟩
          simp [put?, isMember, ih found, setMember_eq_self isMember]

theorem at?_put? {value new changed : Value} {location : List String}
    (puts : value.put? location new = some changed) : changed.at? location = some new := by
  induction location generalizing value changed with
  | nil => exact puts.symm
  | cons name rest ih =>
      cases value with
      | scalar => simp [put?] at puts
      | object identity members =>
          simp only [put?, Option.map_eq_some_iff] at puts
          rcases puts with ⟨inner, putsInner, rfl⟩
          rw [at?_object_cons, lookup_setMember]
          exact ih putsInner

/-- A write leaves every location alone that is not the written one or below it. -/
theorem content_at?_put? {value new changed : Value} {location other : List String}
    (puts : value.put? location new = some changed) (isElsewhere : ¬location <+: other) :
    (changed.at? other).map content = (value.at? other).map content := by
  induction location generalizing value changed other with
  | nil => simp at isElsewhere
  | cons name rest ih =>
      cases value with
      | scalar => simp [put?] at puts
      | object identity members =>
          simp only [put?, Option.map_eq_some_iff] at puts
          rcases puts with ⟨inner, putsInner, rfl⟩
          rcases other with _ | ⟨otherName, otherRest⟩
          · rfl
          · rw [at?_object_cons, at?_object_cons]
            by_cases same : otherName = name
            · subst same
              have isElsewhere : ¬rest <+: otherRest := by
                simpa [List.cons_prefix_cons] using isElsewhere
              have inside := ih putsInner isElsewhere
              rw [lookup_setMember, Option.bind_some, inside]
              cases isMember : members.lookup otherName with
              | some found => rfl
              | none =>
                  -- Nothing can be written below a member that is missing.
                  cases rest with
                  | nil => simp at isElsewhere
                  | cons => simp [isMember, undefined, put?] at putsInner
            · rw [lookup_setMember_of_ne same]

/-- A member can be written to every object. -/
theorem exists_put? {value : Value} {front : List String} {identity : Nat}
    {members : List (String × Value)} (isObject : value.at? front = some (.object identity members))
    (new : Value) (name : String) : ∃ changed, value.put? (front ++ [name]) new = some changed := by
  induction front generalizing value with
  | nil =>
      obtain rfl : value = .object identity members := by simpa using isObject
      simp [put?]
  | cons first rest ih =>
      cases value with
      | scalar => simp at isObject
      | object outerIdentity outerMembers =>
          rw [at?_object_cons, Option.bind_eq_some_iff] at isObject
          rcases isObject with ⟨inner, isMember, isObject⟩
          rcases ih isObject with ⟨changed, puts⟩
          simp [put?, isMember, puts]

end Value

/-- The global object, and the identity that the next new object gets. -/
structure Store where
  identity : Nat
  members : List (String × Value)
  fresh : Nat

namespace Store

/-- The global object as a value. -/
def root (store : Store) : Value :=
  .object store.identity store.members

def at? (store : Store) (location : List String) : Option Value :=
  store.root.at? location

/-- What stands at a location, without its members. -/
def contentAt (store : Store) (location : List String) : Option Content :=
  (store.at? location).map Value.content

/-- Whether an object stands at a location. -/
def HasObject (store : Store) (location : List String) : Prop :=
  ∃ identity members, store.at? location = some (.object identity members)

/-- Whether there is nothing at a location, or something falsy. -/
def IsVacant (store : Store) (location : List String) : Prop :=
  ∀ value, store.at? location = some value → value.isTruthy = false

/-- Makes an empty object. -/
def makeObject (store : Store) : Value × Store :=
  (.object store.fresh [], { store with fresh := store.fresh + 1 })

def write? (store : Store) (location : List String) (new : Value) : Option Store :=
  match store.root.put? location new with
  | some (.object identity members) => some { store with identity, members }
  | _ => none

theorem hasObject_nil (store : Store) : store.HasObject [] :=
  ⟨store.identity, store.members, rfl⟩

theorem not_isVacant_of_hasObject {store : Store} {location : List String}
    (hasObject : store.HasObject location) : ¬store.IsVacant location := by
  rcases hasObject with ⟨identity, members, found⟩
  intro isVacant
  have isFalsy := isVacant _ found
  simp [Value.isTruthy] at isFalsy

theorem hasObject_iff_contentAt {store : Store} {location : List String} :
    store.HasObject location ↔ ∃ identity, store.contentAt location = some (.object identity) := by
  simp only [HasObject, contentAt, Option.map_eq_some_iff]
  constructor
  · rintro ⟨identity, members, found⟩
    exact ⟨identity, _, found, rfl⟩
  · rintro ⟨identity, value, found, contentIs⟩
    cases value with
    | scalar => simp [Value.content] at contentIs
    | object otherIdentity members => exact ⟨otherIdentity, members, found⟩

/-- Whether a location is vacant can be told from what stands there without its members. -/
theorem isVacant_congr {store other : Store} {location : List String}
    (same : store.contentAt location = other.contentAt location) :
    store.IsVacant location ↔ other.IsVacant location := by
  unfold contentAt at same
  unfold IsVacant
  cases found : store.at? location with
  | none =>
      rw [found, Option.map_none, eq_comm, Option.map_eq_none_iff] at same
      simp [same]
  | some value =>
      rw [found, Option.map_some, eq_comm, Option.map_eq_some_iff] at same
      rcases same with ⟨otherValue, otherFound, sameContent⟩
      simp [otherFound, Value.isTruthy_congr sameContent]

theorem write?_of_put? {store : Store} {location : List String} {new changed : Value}
    (notRoot : location ≠ []) (puts : store.root.put? location new = some changed) :
    ∃ after, store.write? location new = some after ∧ after.root = changed ∧
      after.fresh = store.fresh := by
  have isObject : ∃ members, changed = .object store.identity members := by
    cases location with
    | nil => simp at notRoot
    | cons name rest =>
        simp only [root, Value.put?, Option.map_eq_some_iff] at puts
        rcases puts with ⟨inner, _, rfl⟩
        exact ⟨_, rfl⟩
  rcases isObject with ⟨members, rfl⟩
  exact ⟨{ store with members }, by rw [write?, puts], rfl, rfl⟩

/-- Below a vacant location there is nothing. -/
theorem at?_below_of_isVacant {store : Store} {location : List String}
    (isVacant : store.IsVacant location) (name : String) (rest : List String) :
    store.at? (location ++ name :: rest) = none := by
  rw [at?, Value.at?_append]
  cases found : store.root.at? location with
  | none => rfl
  | some value =>
      have isFalsy := isVacant value found
      cases value with
      | scalar => rfl
      | object => simp [Value.isTruthy] at isFalsy

end Store

end ClassLift

import ClassLift.Proofs.Member.Classify
import ClassLift.Proofs.Member.Table
import ClassLift.Proofs.Tree.Locations

/-!
# Member tables without locations

Reading a member table and finding the roles of its entries goes the same way
with and without locations, provided that the table is plain: what decides a
question by being empty or not is not a tree that locations could fill.
-/

namespace ClassLift

namespace Json

/-- A flag that is missing, null or a truth value. -/
def isPlainFlag : Option Json → Bool
  | none | some .null | some (.bool _) => true
  | _ => false

theorem isTruthy_of_isPlainFlag {found : Option Json} (isPlain : isPlainFlag found = true) :
    ((found.map stripLocations).getD .null).isTruthy = (found.getD .null).isTruthy := by
  match found, isPlain with
  | none, _ | some .null, _ | some (.bool _), _ => rfl

end Json

namespace Node

/-- Whether the flags that a function can have are plain. -/
def hasPlainFlags (function : Json) : Bool :=
  ["generator", "async", "expression"].all fun flag => Json.isPlainFlag (function.field? flag)

end Node

namespace MemberTable

/-- Whether a property has a type that can be told, a plain mark and a value with plain flags. -/
def isPlainProperty (property : Json) : Bool :=
  (match property.field? "type" with
    | none | some .null | some (.str _) => true
    | _ => false) &&
  (match property.field? "computed" with
    | none | some (.bool _) => true
    | _ => false) &&
  (property.field? "value").all Node.hasPlainFlags

/-- Whether an object literal lists plain properties, if any; other nodes are plain. -/
def isPlain (table : Json) : Bool :=
  !(table.field? "type").any (·.isStr "ObjectExpression") ||
    match table.field? "properties" with
    | none => true
    | some (.arr properties) => properties.all isPlainProperty
    | _ => false

end MemberTable

namespace MemberEntry

/-- The entry with the locations of its parts stripped. -/
def stripLocations (entry : MemberEntry) : MemberEntry where
  key := entry.key.stripLocations
  value := entry.value.stripLocations
  computed := entry.computed
  kind := entry.kind.stripLocations

@[simp]
theorem isAccessor_stripLocations (entry : MemberEntry) :
    entry.stripLocations.isAccessor = entry.isAccessor := by
  simp [isAccessor, stripLocations]

theorem isFunction_stripsTo (entry : MemberEntry) :
    StripsTo (· = ·) entry.isFunction entry.stripLocations.isFunction := by
  apply (Json.field_stripsTo "type" rfl entry.value).bind
  rintro type _ _ rfl
  exact .succeeds (Json.isStr_stripLocations _ _).symm

theorem name_stripsTo (entry : MemberEntry) :
    StripsTo (·.stripLocations = ·) entry.name entry.stripLocations.name := by
  unfold name
  split
  · rename_i isComputed
    rw [if_pos (show entry.stripLocations.computed = true from isComputed)]
    exact .succeeds rfl
  · rename_i notComputed
    rw [if_neg (show ¬entry.stripLocations.computed = true from notComputed)]
    apply (Json.field_stripsTo "type" rfl entry.key).bind
    rintro type _ _ rfl
    rw [Json.isStr_stripLocations, Json.isStr_stripLocations]
    split
    · exact Json.field_stripsTo "name" rfl entry.key
    · apply (Json.field_stripsTo "value" rfl entry.key).bind
      rintro value _ _ rfl
      cases type.isStr "Literal" <;> cases value <;> exact .succeeds rfl

theorem isConstructor_stripsTo (entry : MemberEntry) (constructorName : String) :
    StripsTo (· = ·) (entry.isConstructor (.str constructorName))
      (entry.stripLocations.isConstructor (.str constructorName)) := by
  unfold isConstructor
  rw [isAccessor_stripLocations]
  split
  · exact .succeeds rfl
  · apply entry.isFunction_stripsTo.bind
    rintro isFunction _ _ rfl
    split
    · exact .succeeds rfl
    · apply entry.name_stripsTo.bind
      rintro name _ _ rfl
      apply StripsTo.succeeds
      rw [sameValue_str, sameValue_str, Json.isStr_stripLocations]

theorem role_stripsTo (constructorName : Option String) (found : Bool) (entry : MemberEntry) :
    StripsTo (· = ·) (entry.role (constructorName.map .str) found)
      (entry.stripLocations.role (constructorName.map .str) found) := by
  have otherwise : ∀ isConstructor : Bool, StripsTo (· = ·)
      (if isConstructor then pure .classConstructor
        else do
          let isFunction ← entry.isFunction
          pure (if isFunction || entry.isAccessor then .method else .data))
      (if isConstructor then pure .classConstructor
        else do
          let isFunction ← entry.stripLocations.isFunction
          pure (if isFunction || entry.stripLocations.isAccessor then MemberRole.method
            else .data)) := by
    intro isConstructor
    split
    · exact .succeeds rfl
    · apply entry.isFunction_stripsTo.bind
      rintro isFunction _ _ rfl
      rw [isAccessor_stripLocations]
      exact .succeeds rfl
  cases constructorName with
  | none => exact otherwise false
  | some name =>
      cases found with
      | true => exact otherwise false
      | false =>
          apply (entry.isConstructor_stripsTo name).bind
          rintro isConstructor _ _ rfl
          exact otherwise isConstructor

end MemberEntry

namespace ClassifiedMembers

/-- The members by role, each without locations. -/
def stripLocations (members : ClassifiedMembers) : ClassifiedMembers where
  classConstructor := members.classConstructor.map (·.stripLocations)
  methods := members.methods.map (·.stripLocations)
  data := members.data.map (·.stripLocations)

theorem stripLocations_insert (role : MemberRole) (entry : MemberEntry)
    (members : ClassifiedMembers) :
    (members.insert role entry).stripLocations =
      members.stripLocations.insert role entry.stripLocations := by
  cases role <;> rfl

/-- Without locations every entry has the role it has with them. -/
theorem split_stripsTo (constructorName : Option String) (found : Bool)
    (entries : List MemberEntry) :
    StripsTo (·.stripLocations = ·) (split (constructorName.map .str) found entries)
      (split (constructorName.map .str) found (entries.map (·.stripLocations))) := by
  induction entries generalizing found with
  | nil => exact .succeeds rfl
  | cons entry rest ih =>
      rw [List.map_cons, split, split]
      apply (entry.role_stripsTo constructorName found).bind
      rintro role _ _ rfl
      apply (ih (found || role == .classConstructor)).bind
      rintro members _ _ rfl
      exact .succeeds (stripLocations_insert role entry members)

end ClassifiedMembers

namespace MemberTable

/-- The table with the locations of its entries stripped. -/
def stripLocations (table : MemberTable) : MemberTable where
  entries := table.entries.map (·.stripLocations)
  warnings := table.warnings

section Property

variable {property : Json} (plain : isPlainProperty property = true)
include plain

theorem stripLocations_type {type : Json} (read : property.field "type" = .ok type) :
    type.stripLocations = type := by
  simp only [isPlainProperty, Bool.and_eq_true] at plain
  rw [Json.field_eq_ok read]
  match property.field? "type", plain.1.1 with
  | none, _ | some .null, _ | some (.str _), _ => rfl

theorem stripLocations_computed {computed : Json}
    (read : property.fieldOr "computed" (.bool false) = .ok computed) :
    computed.stripLocations = computed := by
  simp only [isPlainProperty, Bool.and_eq_true] at plain
  rw [Json.fieldOr_eq_ok read]
  match property.field? "computed", plain.1.2 with
  | none, _ | some (.bool _), _ => rfl

theorem readProperty_stripsTo (position : Int) :
    StripsTo (Sum.map MemberEntry.stripLocations id · = ·) (readProperty position property)
      (readProperty position property.stripLocations) := by
  apply (Json.field_stripsTo "type" rfl property).bind
  rintro type _ typeRead rfl
  rw [stripLocations_type plain typeRead]
  split
  · apply (Json.required_stripsTo "key" rfl property).bind
    rintro key _ _ rfl
    apply (Json.required_stripsTo "value" rfl property).bind
    rintro value _ _ rfl
    apply (Json.fieldOr_stripsTo "computed" rfl property (.bool false)).bind
    rintro computed _ computedRead rfl
    rw [stripLocations_computed plain computedRead]
    apply (Json.fieldOr_stripsTo "kind" rfl property (.str "init")).bind
    rintro kind _ _ rfl
    exact .succeeds rfl
  · exact .succeeds rfl

end Property

theorem readProperties_stripsTo (position : Int) {properties : List Json}
    (plain : ∀ property ∈ properties, isPlainProperty property = true) :
    StripsTo (·.stripLocations = ·) (readProperties position properties).outcome
      (readProperties position (properties.map (·.stripLocations))).outcome := by
  induction properties with
  | nil => exact .succeeds rfl
  | cons property rest ih =>
      rcases List.forall_mem_cons.mp plain with ⟨isPlain, restPlain⟩
      simp only [List.map_cons, readProperties, Traced.outcome_bind, Traced.outcome_liftM]
      apply (readProperty_stripsTo isPlain position).bind
      rintro result _ _ rfl
      cases result with
      | inl entry =>
          simp only [Sum.map_inl, Traced.outcome_bind, Traced.outcome_pure]
          apply (ih restPlain).bind
          rintro table _ _ rfl
          exact .succeeds rfl
      | inr warning =>
          simp only [Sum.map_inr, Traced.outcome_bind, Traced.outcome_pure, Traced.outcome_record,
            ok_bind]
          apply (ih restPlain).bind
          rintro table _ _ rfl
          exact .succeeds rfl

/-- A plain object literal has a list of properties or none. -/
theorem exists_listed_of_isPlain {node type listed : Json} (plain : isPlain node = true)
    (typeRead : node.field "type" = .ok type) (isObject : type.isStr "ObjectExpression" = true)
    (listedRead : node.fieldOr "properties" (.arr []) = .ok listed) :
    ∃ properties, listed = .arr properties ∧
      ∀ property ∈ properties, isPlainProperty property = true := by
  rw [Json.field_eq_ok typeRead, Json.isStr_getD_null] at isObject
  rw [Json.fieldOr_eq_ok listedRead]
  simp only [isPlain, isObject, Bool.not_true, Bool.false_or] at plain
  match node.field? "properties", plain with
  | none, _ => exact ⟨[], rfl, by simp⟩
  | some (.arr properties), allPlain =>
      exact ⟨properties, rfl, fun property => List.all_eq_true.mp allPlain property⟩

/-- The properties of a plain table are its properties without locations, and plain. -/
theorem properties_stripsTo {node : Json} (plain : isPlain node = true) (position : Int) :
    StripsTo
      (fun listed bare => listed.map (·.stripLocations) = bare ∧
        ∀ property ∈ listed, isPlainProperty property = true)
      (properties node position) (properties node.stripLocations position) := by
  unfold properties
  by_cases isNull : node = .null
  · subst isNull
    exact .fails _
  · rw [if_neg isNull, if_neg (mt Json.stripLocations_eq_null_iff.mp isNull)]
    apply (Json.field_stripsTo "type" rfl node).bind
    rintro type _ typeRead rfl
    apply (Json.field_stripsTo "value" rfl node).bind
    rintro value _ _ rfl
    simp only [Json.stripLocations_eq_null_iff, Json.isStr_stripLocations]
    split
    · exact .succeeds ⟨rfl, by simp⟩
    split
    · rename_i isObject
      apply (Json.fieldOr_stripsTo "properties" rfl node (.arr [])).bind
      rintro listed _ listedRead rfl
      rcases exists_listed_of_isPlain plain typeRead isObject listedRead with
        ⟨properties, rfl, allPlain⟩
      rw [Json.stripLocations_arr]
      exact .succeeds ⟨rfl, allPlain⟩
    · exact .fails _

/-- A plain table is read the same way without locations. -/
theorem read_stripsTo {node : Json} (plain : isPlain node = true) (position : Int) :
    StripsTo (·.stripLocations = ·) (read node position).outcome
      (read node.stripLocations position).outcome := by
  simp only [read, Traced.outcome_bind, Traced.outcome_liftM]
  apply (properties_stripsTo plain position).bind
  rintro listed _ _ ⟨rfl, listedPlain⟩
  exact readProperties_stripsTo position listedPlain

/-- The functions among the values of a plain table have plain flags. -/
theorem hasPlainFlags_of_read {node : Json} (plain : isPlain node = true) {position : Int}
    {table : MemberTable} (read : (read node position).outcome = .ok table) {entry : MemberEntry}
    (isEntry : entry ∈ table.entries) : Node.hasPlainFlags entry.value = true := by
  rw [(read_entries read).1] at isEntry
  rcases List.mem_map.mp isEntry with ⟨property, isKept, rfl⟩
  have isListed := (List.mem_filter.mp isKept).1
  have isPlainProperty : isPlainProperty property = true := by
    unfold listed at isListed
    split at isListed
    · rename_i properties typeIs propertiesAre
      simp only [isPlain, typeIs, propertiesAre] at plain
      exact List.all_eq_true.mp plain property isListed
    · simp at isListed
  simp only [MemberTable.isPlainProperty, Bool.and_eq_true] at isPlainProperty
  have valuePlain := isPlainProperty.2
  simp only [MemberEntry.ofProperty]
  cases valueIs : property.field? "value" with
  | none => rfl
  | some value => simpa [valueIs] using valuePlain

end MemberTable

end ClassLift

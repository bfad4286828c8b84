import ClassLift.Proofs.ClassBody.Addition
import ClassLift.Proofs.Member.Table

/-!
# Well-shaped member tables

A parser gives tables in which every property that is kept has nodes as key and
value, and a function has a block of statements or none at all. Of such a table
nothing that is asked fails: it can be read if it is a table at all, its entries
have roles, its data can be assigned, and its members can be added to a class
body, for either target.
-/

namespace ClassLift

def Json.isObject : Json → Bool
  | .obj _ => true
  | _ => false

theorem Json.isObject_iff {value : Json} :
    value.isObject = true ↔ ∃ fields, value = .obj fields := by
  cases value <;> simp [isObject]

/-- Whether the body of a function is missing, null or a node with a list of statements. -/
def Node.hasStatements (function : Json) : Bool :=
  match function.field? "body" with
  | none | some .null => true
  | some block =>
      match block.field? "body" with
      | some (.arr _) => true
      | _ => false

namespace MemberTable

/-- Whether a property is skipped, or has nodes as key and value and a sound function. -/
def isWellShapedProperty (property : Json) : Bool :=
  property.isObject &&
    (!isKept property ||
      ((property.field? "key").any (·.isObject) &&
        (property.field? "value").any fun value =>
          value.isObject && (!Node.hasType "FunctionExpression" value || Node.hasStatements value)))

/-- Whether an object literal lists well-shaped properties, if it lists any. -/
def listsWellShaped (table : Json) : Bool :=
  !Node.hasType "ObjectExpression" table ||
    match table.field? "properties" with
    | none => true
    | some (.arr properties) => properties.all isWellShapedProperty
    | some _ => false

/-- Whether an argument is null or a node that lists well-shaped properties. -/
def isWellShaped (table : Json) : Bool :=
  table = .null || (table.isObject && listsWellShaped table)

/-- Whether an argument serves as a table: an object literal or the literal `null`. -/
def isTable (node : Json) : Bool :=
  Node.hasType "ObjectExpression" node ||
    (Node.hasType "Literal" node && (node.field? "value").all (· = .null))

end MemberTable

/-- An entry whose key and value are objects. -/
structure MemberEntry.OfObjects (entry : MemberEntry) : Prop where
  key : ∃ fields, entry.key = .obj fields
  value : ∃ fields, entry.value = .obj fields

/-- An entry with nodes as key and value and a sound function. -/
structure MemberEntry.WellShaped (entry : MemberEntry) : Prop where
  key : ∃ fields, entry.key = .obj fields
  value : ∃ fields, entry.value = .obj fields
  statements : entry.hasFunction = true → Node.hasStatements entry.value = true

/-! ## Computations that succeed -/

section Succeeds

variable {ε α β : Type}

/-- A computation that gives a value. -/
def Succeeds (outcome : Except ε α) : Prop :=
  ∃ value, outcome = .ok value

theorem succeeds_ok (value : α) : Succeeds (.ok value : Except ε α) :=
  ⟨value, rfl⟩

theorem Succeeds.bind {first : Except ε α} {second : α → Except ε β} (succeeds : Succeeds first)
    (goesOn : ∀ value, Succeeds (second value)) : Succeeds (first >>= second) := by
  rcases succeeds with ⟨value, rfl⟩
  exact goesOn value

theorem succeeds_mapM {action : α → Except ε β} {items : List α}
    (each : ∀ item ∈ items, Succeeds (action item)) : Succeeds (items.mapM action) := by
  induction items with
  | nil => exact succeeds_ok []
  | cons item rest ih =>
      rcases List.forall_mem_cons.mp each with ⟨first, others⟩
      rw [List.mapM_cons]
      exact first.bind fun _ => (ih others).bind fun _ => succeeds_ok _

theorem Json.succeeds_field {value : Json} (isObject : ∃ fields, value = .obj fields)
    (key : String) : Succeeds (value.field key) := by
  rcases isObject with ⟨fields, rfl⟩
  exact succeeds_ok _

end Succeeds

/-! ## Entries -/

namespace MemberEntry

variable {entry : MemberEntry}

theorem WellShaped.ofObjects (wellShaped : entry.WellShaped) : entry.OfObjects :=
  ⟨wellShaped.key, wellShaped.value⟩

theorem OfObjects.isFunction (ofObjects : entry.OfObjects) : Succeeds entry.isFunction :=
  (Json.succeeds_field ofObjects.value "type").bind fun _ => succeeds_ok _

theorem OfObjects.name (ofObjects : entry.OfObjects) : Succeeds entry.name := by
  unfold MemberEntry.name
  split
  · exact succeeds_ok _
  · refine (Json.succeeds_field ofObjects.key "type").bind fun type => ?_
    split
    · exact Json.succeeds_field ofObjects.key "name"
    · refine (Json.succeeds_field ofObjects.key "value").bind fun value => ?_
      split
      · exact succeeds_ok _
      · exact succeeds_ok _

theorem OfObjects.isConstructor (ofObjects : entry.OfObjects) (constructorName : Json) :
    Succeeds (entry.isConstructor constructorName) := by
  unfold MemberEntry.isConstructor
  split
  · exact succeeds_ok _
  · refine ofObjects.isFunction.bind fun isFunction => ?_
    split
    · exact succeeds_ok _
    · exact ofObjects.name.bind fun _ => succeeds_ok _

theorem OfObjects.role (ofObjects : entry.OfObjects) (constructorName : Option Json)
    (found : Bool) : Succeeds (entry.role constructorName found) := by
  have decided : ∀ isConstructor : Bool, Succeeds (if isConstructor then pure .classConstructor
      else do
        let isFunction ← entry.isFunction
        pure (if isFunction || entry.isAccessor then .method else .data) :
          Except Failure MemberRole) := by
    intro isConstructor
    split
    · exact succeeds_ok _
    · exact ofObjects.isFunction.bind fun _ => succeeds_ok _
  unfold MemberEntry.role
  split
  · exact (ofObjects.isConstructor _).bind decided
  · exact decided false

theorem WellShaped.toAssignment (wellShaped : entry.WellShaped) (object : Json) :
    Succeeds (entry.toAssignment object) := by
  have accesses : Succeeds (Node.propertyAccess object entry.key (.bool entry.computed)) := by
    unfold Node.propertyAccess
    split
    · exact succeeds_ok _
    · exact (Json.succeeds_field wellShaped.key "type").bind fun _ => succeeds_ok _
  exact accesses.bind fun _ => succeeds_ok _

end MemberEntry

theorem ClassifiedMembers.succeeds_split {entries : List MemberEntry}
    (ofObjects : ∀ entry ∈ entries, entry.OfObjects) (constructorName : Option Json)
    (found : Bool) : Succeeds (split constructorName found entries) := by
  induction entries generalizing found with
  | nil => exact succeeds_ok _
  | cons entry rest ih =>
      rcases List.forall_mem_cons.mp ofObjects with ⟨entryOfObjects, restOfObjects⟩
      refine (entryOfObjects.role constructorName found).bind fun role => ?_
      exact (ih restOfObjects _).bind fun _ => succeeds_ok _

/-! ## Tables -/

namespace MemberTable

theorem exists_key_value {property : Json} (wellShaped : isWellShapedProperty property = true)
    (kept : isKept property = true) :
    ∃ keyFields valueFields, property.field? "key" = some (.obj keyFields) ∧
      property.field? "value" = some (.obj valueFields) ∧
      (Node.hasType "FunctionExpression" (.obj valueFields) = true →
        Node.hasStatements (.obj valueFields) = true) := by
  simp only [isWellShapedProperty, kept, Bool.not_true, Bool.false_or, Bool.and_eq_true,
    Option.any_eq_true] at wellShaped
  rcases wellShaped with ⟨_, ⟨key, keyIs, keyIsObject⟩, value, valueIs, valueIsObject, sound⟩
  rcases Json.isObject_iff.mp keyIsObject with ⟨keyFields, rfl⟩
  rcases Json.isObject_iff.mp valueIsObject with ⟨valueFields, rfl⟩
  refine ⟨keyFields, valueFields, keyIs, valueIs, ?_⟩
  intro isFunction
  simpa [isFunction] using sound

theorem wellShaped_ofProperty {property : Json} (wellShaped : isWellShapedProperty property = true)
    (kept : isKept property = true) : (MemberEntry.ofProperty property).WellShaped := by
  rcases exists_key_value wellShaped kept with ⟨keyFields, valueFields, keyIs, valueIs, sound⟩
  have entryKey : (MemberEntry.ofProperty property).key = .obj keyFields := by
    simp [MemberEntry.ofProperty, keyIs]
  have entryValue : (MemberEntry.ofProperty property).value = .obj valueFields := by
    simp [MemberEntry.ofProperty, valueIs]
  refine ⟨⟨_, entryKey⟩, ⟨_, entryValue⟩, ?_⟩
  intro hasFunction
  rw [MemberEntry.hasFunction, entryValue] at hasFunction
  rw [entryValue]
  exact sound hasFunction

theorem succeeds_readProperty {property : Json} (position : Int)
    (wellShaped : isWellShapedProperty property = true) :
    Succeeds (readProperty position property) := by
  have isObject : ∃ fields, property = .obj fields := by
    simp only [isWellShapedProperty, Bool.and_eq_true] at wellShaped
    exact Json.isObject_iff.mp wellShaped.1
  rcases isObject with ⟨fields, rfl⟩
  have typeRead : (Json.obj fields).field "type" =
      .ok (((Json.obj fields).field? "type").getD .null) := rfl
  rw [readProperty, typeRead, ok_bind]
  split
  · rename_i kept
    rcases exists_key_value wellShaped ((isKept_iff _).mpr kept) with
      ⟨keyFields, valueFields, keyIs, valueIs, _⟩
    rw [Json.required_eq_ok_iff.mpr keyIs, Json.required_eq_ok_iff.mpr valueIs]
    exact succeeds_ok _
  · exact succeeds_ok _

theorem succeeds_readProperties {properties : List Json} (position : Int)
    (wellShaped : ∀ property ∈ properties, isWellShapedProperty property = true) :
    Succeeds (readProperties position properties).outcome := by
  induction properties with
  | nil => exact succeeds_ok _
  | cons property rest ih =>
      rcases List.forall_mem_cons.mp wellShaped with ⟨propertyShaped, restShaped⟩
      simp only [readProperties, Traced.outcome_bind, Traced.outcome_liftM]
      refine (succeeds_readProperty position propertyShaped).bind fun result => ?_
      cases result with
      | inl entry =>
          simp only [Traced.outcome_bind, Traced.outcome_pure]
          exact (ih restShaped).bind fun _ => succeeds_ok _
      | inr warning =>
          simp only [Traced.outcome_bind, Traced.outcome_record, Traced.outcome_pure, ok_bind]
          exact (ih restShaped).bind fun _ => succeeds_ok _

theorem wellShaped_of_mem_keptEntries {table : Json} (wellShaped : listsWellShaped table = true)
    {entry : MemberEntry} (isEntry : entry ∈ keptEntries table) : entry.WellShaped := by
  rcases List.mem_map.mp isEntry with ⟨property, isKeptProperty, rfl⟩
  rcases List.mem_filter.mp isKeptProperty with ⟨isListed, kept⟩
  apply wellShaped_ofProperty _ kept
  unfold listed at isListed
  split at isListed
  · rename_i properties typeIs listIs
    have isLiteral : Node.hasType "ObjectExpression" table = true := by
      simp [Node.hasType, typeIs, Json.isStr]
    simp only [listsWellShaped, isLiteral, Bool.not_true, Bool.false_or, listIs,
      List.all_eq_true] at wellShaped
    exact wellShaped property isListed
  · simp at isListed

/-- How the properties of a node are found, by what it is. -/
theorem properties_obj (fields : List (String × Json)) (position : Int) :
    properties (.obj fields) position =
      if Node.hasType "Literal" (.obj fields) ∧
          ((Json.obj fields).field? "value").getD .null = .null then .ok []
      else if Node.hasType "ObjectExpression" (.obj fields) then
        (((Json.obj fields).field? "properties").getD (.arr [])).elements
      else
        .error (.invalidMemberTable position (((Json.obj fields).field? "type").getD .null)) := by
  rw [properties, if_neg nofun]
  simp only [Json.field, Json.fieldOr, ok_bind, Json.isStr_getD_null]
  rfl

theorem isTable_obj_iff {fields : List (String × Json)} :
    isTable (.obj fields) = true ↔
      (Node.hasType "Literal" (.obj fields) = true ∧
        ((Json.obj fields).field? "value").getD .null = .null) ∨
      Node.hasType "ObjectExpression" (.obj fields) = true := by
  unfold isTable
  cases (Json.obj fields).field? "value" with
  | none => simp [or_comm]
  | some value => simp [or_comm]

theorem exists_properties_of_isTable {fields : List (String × Json)}
    (wellShaped : listsWellShaped (.obj fields) = true) (isTable : isTable (.obj fields) = true)
    (position : Int) :
    ∃ found, properties (.obj fields) position = .ok found ∧
      ∀ property ∈ found, isWellShapedProperty property = true := by
  rw [properties_obj]
  split
  · exact ⟨[], rfl, by simp⟩
  · rename_i notNull
    have isLiteral := (isTable_obj_iff.mp isTable).resolve_left notNull
    rw [if_pos isLiteral]
    simp only [listsWellShaped, isLiteral, Bool.not_true, Bool.false_or] at wellShaped
    cases listIs : (Json.obj fields).field? "properties" with
    | none => exact ⟨[], rfl, by simp⟩
    | some list =>
        rw [listIs] at wellShaped
        cases list with
        | arr properties => exact ⟨properties, rfl, List.all_eq_true.mp wellShaped⟩
        | null | bool | int | float | str | obj => simp at wellShaped

/-- A well-shaped table is read, and its entries are well-shaped. -/
theorem read_of_isTable {table : Json} (wellShaped : isWellShaped table = true)
    (isTable : isTable table = true) (position : Int) :
    ∃ read, (MemberTable.read table position).outcome = .ok read ∧
      ∀ entry ∈ read.entries, entry.WellShaped := by
  simp only [isWellShaped, Bool.or_eq_true, decide_eq_true_eq, Bool.and_eq_true,
    Json.isObject_iff] at wellShaped
  rcases wellShaped with rfl | ⟨⟨fields, rfl⟩, listShaped⟩
  · exact absurd isTable (by decide)
  · rcases exists_properties_of_isTable listShaped isTable position with ⟨found, finds, shaped⟩
    rcases succeeds_readProperties position shaped with ⟨read, reads⟩
    have isRead : (MemberTable.read (.obj fields) position).outcome = .ok read := by
      simp only [MemberTable.read, Traced.outcome_bind, Traced.outcome_liftM, finds, ok_bind,
        reads]
    refine ⟨read, isRead, ?_⟩
    intro entry isEntry
    rw [(read_entries isRead).1] at isEntry
    exact wellShaped_of_mem_keptEntries listShaped isEntry

/-- What is no table is refused at its position. -/
theorem read_of_not_isTable {table : Json} (wellShaped : isWellShaped table = true)
    (notTable : isTable table = false) (position : Int) :
    ∃ found, (MemberTable.read table position).outcome =
      .error (.invalidMemberTable position found) := by
  simp only [isWellShaped, Bool.or_eq_true, decide_eq_true_eq, Bool.and_eq_true,
    Json.isObject_iff] at wellShaped
  rcases wellShaped with rfl | ⟨⟨fields, rfl⟩, _⟩
  · exact ⟨.null, rfl⟩
  · rw [← Bool.not_eq_true, isTable_obj_iff, not_or] at notTable
    refine ⟨((Json.obj fields).field? "type").getD .null, ?_⟩
    simp only [MemberTable.read, Traced.outcome_bind, Traced.outcome_liftM, properties_obj]
    rw [if_neg notTable.1, if_neg notTable.2, error_bind]

end MemberTable

/-! ## Class bodies -/

theorem StaticMembers.succeeds_append {entries : List MemberEntry}
    (wellShaped : ∀ entry ∈ entries, entry.WellShaped) (body : List Json) :
    Succeeds (append entries body).outcome := by
  simp only [append, Traced.outcome_bind, ClassifiedMembers.ofEntries_outcome,
    Traced.outcome_record, Traced.outcome_pure]
  have ofObjects : ∀ entry ∈ entries, entry.OfObjects := fun entry isEntry =>
    (wellShaped entry isEntry).ofObjects
  exact (ClassifiedMembers.succeeds_split ofObjects none false).bind fun _ => succeeds_ok _

/-- A constructor taken from a sound function has a list of statements. -/
theorem Node.exists_constructorStatements {function : Json}
    (sound : hasStatements function = true) :
    ∃ statements,
      constructorStatements (classConstructor (copiedFunction function)) =
        .ok (.arr statements) := by
  simp only [constructorStatements_eq_ok_iff]
  have bodyIs : (copiedFunction function).field? "body" =
      some (orElse (block .null) ((function.field? "body").getD .null)) := rfl
  unfold hasStatements at sound
  split at sound
  · rename_i isMissing
    exact ⟨[], _, _, rfl, bodyIs, by rw [isMissing]; rfl⟩
  · rename_i isNull
    exact ⟨[], _, _, rfl, bodyIs, by rw [isNull]; rfl⟩
  · rename_i given notNull blockIs
    split at sound
    · rename_i statements statementsAre
      refine ⟨statements, _, _, rfl, bodyIs, ?_⟩
      rw [blockIs, Option.getD_some]
      cases given with
      | null => exact absurd rfl notNull
      | bool | int | float | str | arr | obj => exact statementsAre
    · simp at sound

theorem Placement.initialisers_of_wellShaped {data : List MemberEntry}
    (wellShaped : ∀ entry ∈ data, entry.WellShaped) : (initialisers data).2 = none := by
  induction data with
  | nil => rfl
  | cons entry rest ih =>
      rcases List.forall_mem_cons.mp wellShaped with ⟨entryShaped, restShaped⟩
      rcases entryShaped.toAssignment Node.thisExpression with ⟨statement, assigns⟩
      simp only [initialisers, assigns]
      exact ih restShaped

namespace InstanceMembers

theorem succeeds_finish (target : Target) {before after methods : List Json} {node : Json}
    {data : List MemberEntry} (wellShaped : ∀ entry ∈ data, entry.WellShaped)
    {statements : List Json} (hasList : Node.constructorStatements node = .ok (.arr statements)) :
    Succeeds (finish target (.within before node after) methods data).members.outcome := by
  cases target with
  | es2017 => exact finish_es2017 before after methods node data
  | es2015 =>
      unfold finish
      split
      · exact succeeds_ok _
      · have places : (Placement.place .es2015 (.within before node after) data).2 = none := by
          simp only [Placement.place, Placement.initialise, ConstructorSlot.node, hasList]
          exact Placement.initialisers_of_wellShaped wellShaped
        simp only [places]
        exact succeeds_ok _

/-- A body without a constructor has a place for one, or needs none. -/
theorem succeeds_chooseSlot (derived : Bool) (members : ClassifiedMembers) (body : List Json) :
    Succeeds (chooseSlot false derived members body).outcome := by
  unfold chooseSlot
  cases members.classConstructor with
  | some entry => exact succeeds_ok _
  | none =>
      simp only [Traced.outcome_bind, Traced.outcome_liftM, Bool.false_eq_true, if_false]
      cases members.data.isEmpty with
      | true => exact succeeds_ok _
      | false => exact succeeds_ok _

/-- The constructor that a table or its data leads to has a list of statements. -/
theorem exists_statements_of_seat {derived : Bool} {members : ClassifiedMembers}
    {body before after : List Json} {node : Json}
    (sound : ∀ entry, members.classConstructor = some entry →
      Node.hasStatements entry.value = true)
    (seat : Seat false derived members body before node after) :
    ∃ statements, Node.constructorStatements node = .ok (.arr statements) := by
  cases seat with
  | taken entry isConstructor => exact Node.exists_constructorStatements (sound entry isConstructor)
  | present _ _ _ _ isProduced => simp at isProduced
  | synthesised =>
      cases derived with
      | false => exact ⟨_, rfl⟩
      | true => exact ⟨_, rfl⟩

/-- Members of a well-shaped table can be added to a body that has no constructor yet. -/
theorem succeeds_add (options : Options) (derived : Bool) {entries : List MemberEntry}
    (wellShaped : ∀ entry ∈ entries, entry.WellShaped) (body : List Json) :
    Succeeds (add options false derived entries body).members.outcome := by
  have ofObjects : ∀ entry ∈ entries, entry.OfObjects := fun entry isEntry =>
    (wellShaped entry isEntry).ofObjects
  rcases ClassifiedMembers.succeeds_split ofObjects (some (.str options.constructorName)) false
    with ⟨members, splits⟩
  rcases succeeds_chooseSlot derived members body with ⟨slot?, chooses⟩
  rw [(add_of_plan (plan_eq_ok_iff.mpr ⟨splits, chooses⟩)).2]
  obtain rfl : members = .byRole (some options.constructorName) false entries :=
    ClassifiedMembers.split_eq_ok splits
  rcases chooseSlot_eq_ok chooses with ⟨before, node, after, rfl, seat⟩ | ⟨rfl, _⟩
  · have sound : ∀ entry, entries.find? (·.mayConstruct (some options.constructorName) false) =
        some entry → Node.hasStatements entry.value = true := by
      intro entry isConstructor
      apply (wellShaped entry (List.mem_of_find?_eq_some isConstructor)).statements
      exact MemberEntry.hasFunction_of_mayConstruct (List.find?_some isConstructor)
    rcases exists_statements_of_seat sound seat with ⟨statements, hasList⟩
    refine succeeds_finish options.target ?_ hasList
    intro entry isData
    exact wellShaped entry (List.mem_filter.mp isData).1
  · exact succeeds_ok _

end InstanceMembers

end ClassLift

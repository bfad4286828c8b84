import ClassLift.Member.Table
import ClassLift.Proofs.LookUp

/-!
# The properties that a member table keeps

A property of a table is kept if its type is `Property` or is not given. Reading
a table gives one entry for each kept property, in table order, and the entry
holds the fields of its property.
-/

namespace ClassLift

namespace MemberTable

/-- Whether a property of a table becomes an entry. -/
def isKept (property : Json) : Bool :=
  match property.field? "type" with
  | none | some .null => true
  | some type => type.isStr "Property"

/-- The properties listed in an object literal; nothing else lists any. -/
def listed (table : Json) : List Json :=
  match table.field? "type", table.field? "properties" with
  | some (.str "ObjectExpression"), some (.arr properties) => properties
  | _, _ => []

/-- The properties of a table that become entries. -/
def keptProperties (table : Json) : List Json :=
  (listed table).filter isKept

end MemberTable

/-- The fields of a property, with the values that stand for missing ones. -/
def MemberEntry.ofProperty (property : Json) : MemberEntry where
  key := (property.field? "key").getD .null
  value := (property.field? "value").getD .null
  computed := ((property.field? "computed").getD (.bool false)).isTruthy
  kind := (property.field? "kind").getD (.str "init")

namespace MemberTable

/-- The entries of the kept properties of a table. -/
def keptEntries (table : Json) : List MemberEntry :=
  (keptProperties table).map MemberEntry.ofProperty

theorem isKept_iff (property : Json) :
    isKept property = true ↔
      (property.field? "type").getD .null = .null ∨
        ((property.field? "type").getD .null).isStr "Property" = true := by
  unfold isKept
  cases property.field? "type" with
  | none => simp
  | some type => cases type <;> simp [Json.isStr]

/-- A property is read as an entry exactly if it is kept, and then it has a key and a value. -/
theorem readProperty_eq_ok {position : Int} {property : Json} {result : MemberEntry ⊕ String}
    (read : readProperty position property = .ok result) :
    (isKept property = true ∧ result = .inl (MemberEntry.ofProperty property) ∧
      ∃ key value, property.field? "key" = some key ∧ property.field? "value" = some value) ∨
    (isKept property = false ∧ ∃ warning, result = .inr warning) := by
  unfold readProperty at read
  rcases bind_eq_ok_iff.mp read with ⟨type, typeRead, read⟩
  have typeIs := Json.field_eq_ok typeRead
  subst typeIs
  split at read
  · rename_i kept
    rcases bind_eq_ok_iff.mp read with ⟨key, keyRead, read⟩
    rcases bind_eq_ok_iff.mp read with ⟨value, valueRead, read⟩
    rcases bind_eq_ok_iff.mp read with ⟨computed, computedRead, read⟩
    rcases bind_eq_ok_iff.mp read with ⟨kind, kindRead, read⟩
    rw [Json.required_eq_ok_iff] at keyRead valueRead
    have computedIs := Json.fieldOr_eq_ok computedRead
    have kindIs := Json.fieldOr_eq_ok kindRead
    rw [pure_eq_ok_iff] at read
    left
    refine ⟨(isKept_iff property).mpr kept, ?_, key, value, keyRead, valueRead⟩
    rw [← read, computedIs, kindIs]
    simp [MemberEntry.ofProperty, keyRead, valueRead]
  · rename_i skipped
    rw [pure_eq_ok_iff] at read
    right
    refine ⟨?_, _, read.symm⟩
    rw [← Bool.not_eq_true]
    intro kept
    exact skipped ((isKept_iff property).mp kept)

/-- Reading a list of properties gives the entries of the kept ones in their order. -/
theorem readProperties_entries {position : Int} {properties : List Json} {table : MemberTable}
    (read : (readProperties position properties).outcome = .ok table) :
    table.entries = (properties.filter isKept).map MemberEntry.ofProperty ∧
      ∀ property ∈ properties.filter isKept,
        ∃ key value, property.field? "key" = some key ∧ property.field? "value" = some value := by
  induction properties generalizing table with
  | nil =>
      simp only [readProperties, Traced.outcome_pure, Except.ok.injEq] at read
      subst read
      simp
  | cons property rest ih =>
      simp only [readProperties, Traced.outcome_bind, Traced.outcome_liftM] at read
      rcases bind_eq_ok_iff.mp read with ⟨result, propertyRead, read⟩
      rcases readProperty_eq_ok propertyRead with ⟨kept, rfl, hasParts⟩ | ⟨skipped, warning, rfl⟩
      · simp only [Traced.outcome_bind, Traced.outcome_pure] at read
        rcases bind_eq_ok_iff.mp read with ⟨others, othersRead, read⟩
        simp only [Except.ok.injEq] at read
        subst read
        rcases ih othersRead with ⟨entries, parts⟩
        rw [List.filter_cons_of_pos kept]
        refine ⟨by rw [List.map_cons, entries], ?_⟩
        intro other otherMem
        rcases List.mem_cons.mp otherMem with rfl | otherMem
        · exact hasParts
        · exact parts other otherMem
      · simp only [Traced.outcome_bind, Traced.outcome_pure, Traced.outcome_record] at read
        rcases bind_eq_ok_iff.mp read with ⟨_, _, read⟩
        rcases bind_eq_ok_iff.mp read with ⟨others, othersRead, read⟩
        simp only [Except.ok.injEq] at read
        subst read
        have notKept : ¬isKept property = true := by simp [skipped]
        have othersAre := ih othersRead
        rw [List.filter_cons_of_neg notKept]
        exact othersAre

/--
A node taken as a table gives the properties it lists. A string or an object in
the place of that list gives strings, and no string can be read as a property.
-/
theorem properties_eq_ok {node : Json} {position : Int} {found : List Json}
    (read : properties node position = .ok found) :
    found = listed node ∨
      (listed node = [] ∧ ∀ property ∈ found, ∃ text, property = .str text) := by
  unfold properties at read
  split at read
  · simp at read
  rcases bind_eq_ok_iff.mp read with ⟨type, typeRead, read⟩
  rcases bind_eq_ok_iff.mp read with ⟨value, _, read⟩
  have typeIs := Json.field_eq_ok typeRead
  split at read
  · rename_i isNull
    rw [pure_eq_ok_iff] at read
    have isLiteral := Json.isStr_iff.mp isNull.1
    left
    unfold listed
    rw [← read]
    split
    · rename_i object _
      simp [object, isLiteral] at typeIs
    · rfl
  split at read
  · rename_i isObject
    rcases bind_eq_ok_iff.mp read with ⟨list, listRead, read⟩
    have listIs := Json.fieldOr_eq_ok listRead
    have objectType : node.field? "type" = some (.str "ObjectExpression") := by
      have isObject := Json.isStr_iff.mp isObject
      cases found : node.field? "type" with
      | none => simp [found, isObject] at typeIs
      | some other => simpa [found, isObject] using typeIs.symm
    unfold listed
    rw [objectType]
    cases found : node.field? "properties" with
    | none =>
        simp only [found, Option.getD_none] at listIs
        subst listIs
        simp only [Json.elements, Except.ok.injEq] at read
        simp [← read]
    | some properties =>
        simp only [found, Option.getD_some] at listIs
        subst listIs
        cases list with
        | arr items =>
            simp only [Json.elements, Except.ok.injEq] at read
            simp [← read]
        | str text =>
            simp only [Json.elements, Except.ok.injEq] at read
            right
            simp [← read]
        | obj fields =>
            simp only [Json.elements, Except.ok.injEq] at read
            right
            refine ⟨rfl, ?_⟩
            intro property propertyMem
            rw [← read] at propertyMem
            rcases List.mem_map.mp propertyMem with ⟨field, _, rfl⟩
            exact ⟨field.1, rfl⟩
        | null | bool | int | float => simp [Json.elements] at read
  · simp [throw, throwThe, MonadExceptOf.throw] at read

/-- Reading a table gives the entries of its kept properties, and those have a key and a value. -/
theorem read_entries {node : Json} {position : Int} {table : MemberTable}
    (read : (read node position).outcome = .ok table) :
    table.entries = keptEntries node ∧
      ∀ property ∈ keptProperties node,
        ∃ key value, property.field? "key" = some key ∧ property.field? "value" = some value := by
  simp only [MemberTable.read, Traced.outcome_bind, Traced.outcome_liftM] at read
  rcases bind_eq_ok_iff.mp read with ⟨found, foundRead, read⟩
  rcases properties_eq_ok foundRead with rfl | ⟨nothingListed, texts⟩
  · exact readProperties_entries read
  · cases found with
    | nil =>
        have entries := readProperties_entries read
        simpa [keptEntries, keptProperties, nothingListed] using entries
    | cons property rest =>
        rcases texts property List.mem_cons_self with ⟨text, rfl⟩
        simp only [readProperties, Traced.outcome_bind, Traced.outcome_liftM] at read
        rcases bind_eq_ok_iff.mp read with ⟨result, propertyRead, _⟩
        simp [readProperty, Json.field, bind, Except.bind] at propertyRead

end MemberTable

end ClassLift

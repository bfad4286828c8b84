import ClassLift.Proofs.Member.Shape

/-!
# The role of each position of a table

A classification gives every position of a table one role. The constructor is at
the first position whose entry can serve as one. Every other position has the role
that its entry has by itself, whatever the entry is called, and each group of the
result lists the entries of its role in table order. The members of a class that
has its constructor are therefore classified a second time as they were before.
-/

namespace ClassLift

/-- A key that spells a name, as an identifier or as a text. -/
inductive Json.Spells (name : String) (key : Json) : Prop where
  | identifier (isIdentifier : key.field? "type" = some (.str "Identifier"))
      (named : key.field? "name" = some (.str name))
  | literal (isLiteral : key.field? "type" = some (.str "Literal"))
      (written : key.field? "value" = some (.str name))

theorem Json.any_isStr_iff {text : String} {found : Option Json} :
    found.any (·.isStr text) = true ↔ found = some (.str text) := by
  simp [Option.any_eq_true, isStr_iff]

namespace MemberEntry

/-- An entry that can serve as the constructor of the given name. -/
structure ServesAs (name : String) (entry : MemberEntry) : Prop where
  notAccessor : entry.kind ≠ .str "get" ∧ entry.kind ≠ .str "set"
  function : entry.value.field? "type" = some (.str "FunctionExpression")
  notComputed : entry.computed = false
  named : entry.key.Spells name

/-- An entry that is a method by itself. -/
inductive IsCallable (entry : MemberEntry) : Prop where
  | function (isFunction : entry.value.field? "type" = some (.str "FunctionExpression"))
  | getter (isGetter : entry.kind = .str "get")
  | setter (isSetter : entry.kind = .str "set")

section

variable {entry : MemberEntry}

theorem isAccessor_iff :
    entry.isAccessor = true ↔ entry.kind = .str "get" ∨ entry.kind = .str "set" := by
  rw [isAccessor, Bool.or_eq_true, Json.isStr_iff, Json.isStr_iff]

theorem hasFunction_iff :
    entry.hasFunction = true ↔
      entry.value.field? "type" = some (.str "FunctionExpression") :=
  Json.any_isStr_iff

theorem isNamed_iff {name : String} :
    entry.isNamed name = true ↔ entry.computed = false ∧ entry.key.Spells name := by
  simp only [isNamed, Bool.and_eq_true, Bool.or_eq_true, Bool.not_eq_true', Json.any_isStr_iff]
  apply and_congr_right
  intro _
  constructor
  · rintro (⟨isIdentifier, named⟩ | ⟨isLiteral, written⟩)
    · exact .identifier isIdentifier named
    · exact .literal isLiteral written
  · rintro (⟨isIdentifier, named⟩ | ⟨isLiteral, written⟩)
    · exact .inl ⟨isIdentifier, named⟩
    · exact .inr ⟨isLiteral, written⟩

theorem isConstructorNamed_iff {name : String} :
    entry.isConstructorNamed name = true ↔ entry.ServesAs name := by
  rw [isConstructorNamed, Bool.and_eq_true, Bool.and_eq_true, Bool.not_eq_true',
    ← Bool.not_eq_true, isAccessor_iff, not_or, hasFunction_iff, isNamed_iff]
  constructor
  · rintro ⟨⟨notAccessor, function⟩, notComputed, named⟩
    exact ⟨notAccessor, function, notComputed, named⟩
  · rintro ⟨notAccessor, function, notComputed, named⟩
    exact ⟨⟨notAccessor, function⟩, notComputed, named⟩

theorem mayConstruct_iff {constructorName : Option String} {found : Bool} :
    entry.mayConstruct constructorName found = true ↔
      ∃ name, constructorName = some name ∧ found = false ∧ entry.ServesAs name := by
  simp only [mayConstruct, Bool.and_eq_true, Bool.not_eq_true', Option.any_eq_true,
    isConstructorNamed_iff]
  constructor
  · rintro ⟨notFound, name, isName, serves⟩
    exact ⟨name, isName, notFound, serves⟩
  · rintro ⟨name, isName, notFound, serves⟩
    exact ⟨notFound, name, isName, serves⟩

theorem isMethod_iff : entry.isMethod = true ↔ entry.IsCallable := by
  rw [isMethod, Bool.or_eq_true, hasFunction_iff, isAccessor_iff]
  constructor
  · rintro (isFunction | isGetter | isSetter)
    · exact .function isFunction
    · exact .getter isGetter
    · exact .setter isSetter
  · rintro (isFunction | isGetter | isSetter)
    · exact .inl isFunction
    · exact .inr (.inl isGetter)
    · exact .inr (.inr isSetter)

end

/-- The role of an entry that is not taken as the constructor. -/
def ownRole (entry : MemberEntry) : MemberRole :=
  if entry.isMethod then .method else .data

theorem ownRole_eq_method_iff {entry : MemberEntry} :
    entry.ownRole = .method ↔ entry.isMethod = true := by
  unfold ownRole
  split <;> simp [*]

theorem ownRole_eq_data_iff {entry : MemberEntry} :
    entry.ownRole = .data ↔ (!entry.isMethod) = true := by
  unfold ownRole
  split <;> simp [*]

theorem ownRole_ne_constructor (entry : MemberEntry) : entry.ownRole ≠ .classConstructor := by
  unfold ownRole
  split <;> simp

end MemberEntry

namespace ClassifiedMembers

/-! ## Roles and the entries that have them -/

/-- The entries that have a role, in table order. -/
def entriesOf (role : MemberRole) (entries : List MemberEntry) (roles : List MemberRole) :
    List MemberEntry :=
  ((entries.zip roles).filter (·.2 = role)).map Prod.fst

theorem entriesOf_cons (role : MemberRole) (entry : MemberEntry) (entries : List MemberEntry)
    (own : MemberRole) (roles : List MemberRole) :
    entriesOf role (entry :: entries) (own :: roles) =
      if own = role then entry :: entriesOf role entries roles
      else entriesOf role entries roles := by
  by_cases same : own = role
  · simp [entriesOf, same]
  · simp [entriesOf, same]

/-- Where each entry has its own role, the entries of a role are a filtered table. -/
theorem entriesOf_map (role : MemberRole) (roleOf : MemberEntry → MemberRole)
    (entries : List MemberEntry) :
    entriesOf role entries (entries.map roleOf) = entries.filter (roleOf · = role) := by
  induction entries with
  | nil => rfl
  | cons entry rest ih =>
      rw [List.map_cons, entriesOf_cons, ih, List.filter_cons]
      simp only [decide_eq_true_eq]

section

variable (constructorName : Option String) (found : Bool)

/-- The role of each position: the constructor's at the first entry that may be it. -/
def roles (entries : List MemberEntry) : List MemberRole :=
  entries.mapIdx fun position entry =>
    if entries.findIdx? (·.mayConstruct constructorName found) = some position then
      .classConstructor
    else entry.ownRole

theorem length_roles (entries : List MemberEntry) :
    (roles constructorName found entries).length = entries.length :=
  List.length_mapIdx

theorem getElem?_roles {entries : List MemberEntry} {position : Nat} {entry : MemberEntry}
    (isThere : entries[position]? = some entry) :
    (roles constructorName found entries)[position]? =
      some (if entries.findIdx? (·.mayConstruct constructorName found) = some position then
        .classConstructor else entry.ownRole) := by
  rw [roles, List.getElem?_mapIdx, isThere, Option.map_some]

theorem getElem?_roles_eq_constructor_iff {entries : List MemberEntry} {position : Nat} :
    (roles constructorName found entries)[position]? = some .classConstructor ↔
      entries.findIdx? (·.mayConstruct constructorName found) = some position := by
  cases isThere : entries[position]? with
  | none =>
      have noRole : (roles constructorName found entries)[position]? = none := by
        rw [roles, List.getElem?_mapIdx, isThere, Option.map_none]
      rw [noRole, List.findIdx?_eq_some_iff_getElem]
      constructor
      · exact nofun
      · rintro ⟨inTable, _⟩
        rw [List.getElem?_eq_none_iff] at isThere
        omega
  | some entry =>
      rw [getElem?_roles _ _ isThere, Option.some_inj]
      split
      · rename_i isFirst
        simp [isFirst]
      · rename_i notFirst
        simp [notFirst, entry.ownRole_ne_constructor]

theorem roles_cons_of_mayConstruct {entry : MemberEntry}
    (may : entry.mayConstruct constructorName found = true) (rest : List MemberEntry) :
    roles constructorName found (entry :: rest) =
      .classConstructor :: rest.map MemberEntry.ownRole := by
  have restRoles : rest.mapIdx (fun _ other => other.ownRole) = rest.map MemberEntry.ownRole := by
    apply List.ext_getElem?
    simp
  simp [roles, List.mapIdx_cons, List.findIdx?_cons, may, restRoles]

theorem roles_cons_of_not {entry : MemberEntry}
    (mayNot : ¬entry.mayConstruct constructorName found = true) (rest : List MemberEntry) :
    roles constructorName found (entry :: rest) =
      entry.ownRole :: roles constructorName found rest := by
  simp [roles, List.mapIdx_cons, List.findIdx?_cons, mayNot]

/-! ## The groups of a classification -/

theorem classConstructor_byRole (entries : List MemberEntry) :
    (byRole constructorName found entries).classConstructor.toList =
      entriesOf .classConstructor entries (roles constructorName found entries) := by
  simp only [byRole]
  induction entries with
  | nil => rfl
  | cons entry rest ih =>
      by_cases may : entry.mayConstruct constructorName found = true
      · have noneLater : entriesOf .classConstructor rest (rest.map MemberEntry.ownRole) = [] := by
          simp [entriesOf_map, MemberEntry.ownRole_ne_constructor]
        rw [roles_cons_of_mayConstruct _ _ may, entriesOf_cons, if_pos rfl, noneLater,
          List.find?_cons_of_pos may, Option.toList_some]
      · rw [roles_cons_of_not _ _ may, entriesOf_cons, if_neg entry.ownRole_ne_constructor,
          List.find?_cons_of_neg may, ih]

theorem methods_byRole (entries : List MemberEntry) :
    (byRole constructorName found entries).methods =
      entriesOf .method entries (roles constructorName found entries) := by
  simp only [byRole]
  induction entries with
  | nil => rfl
  | cons entry rest ih =>
      by_cases may : entry.mayConstruct constructorName found = true
      · rw [roles_cons_of_mayConstruct _ _ may, entriesOf_cons, if_neg (by simp), entriesOf_map,
          List.eraseP_cons_of_pos may]
        simp [MemberEntry.ownRole_eq_method_iff]
      · rw [roles_cons_of_not _ _ may, entriesOf_cons, ← ih, List.eraseP_cons_of_neg may,
          List.filter_cons]
        simp only [MemberEntry.ownRole_eq_method_iff]

theorem data_byRole (entries : List MemberEntry) :
    (byRole constructorName found entries).data =
      entriesOf .data entries (roles constructorName found entries) := by
  simp only [byRole]
  induction entries with
  | nil => rfl
  | cons entry rest ih =>
      by_cases may : entry.mayConstruct constructorName found = true
      · -- The constructor is a method by itself, so the data is the same without it.
        have isMethod := MemberEntry.isMethod_of_mayConstruct may
        rw [roles_cons_of_mayConstruct _ _ may, entriesOf_cons, if_neg (by simp), entriesOf_map,
          List.filter_cons_of_neg (by simp [isMethod])]
        simp [MemberEntry.ownRole_eq_data_iff]
      · rw [roles_cons_of_not _ _ may, entriesOf_cons, ← ih, List.filter_cons]
        simp only [MemberEntry.ownRole_eq_data_iff]

/-- Members of a class that has its constructor are classified as they were before. -/
theorem byRole_again (laterName : Option String) (entries : List MemberEntry) :
    byRole laterName true ((byRole constructorName found entries).methods ++
        (byRole constructorName found entries).data) =
      ⟨none, (byRole constructorName found entries).methods,
        (byRole constructorName found entries).data⟩ := by
  have areMethods : ∀ entry ∈ (byRole constructorName found entries).methods,
      entry.isMethod = true := fun entry isListed => (List.mem_filter.mp isListed).2
  have areData : ∀ entry ∈ (byRole constructorName found entries).data,
      (!entry.isMethod) = true := fun entry isListed => (List.mem_filter.mp isListed).2
  rw [byRole_true, List.filter_append, List.filter_append, List.filter_eq_self.mpr areMethods,
    List.filter_eq_self.mpr areData]
  have noMethods : (byRole constructorName found entries).data.filter (·.isMethod) = [] := by
    rw [List.filter_eq_nil_iff]
    intro entry isListed
    simpa using areData entry isListed
  have noData : (byRole constructorName found entries).methods.filter (!·.isMethod) = [] := by
    rw [List.filter_eq_nil_iff]
    intro entry isListed
    simpa using areMethods entry isListed
  rw [noMethods, noData, List.append_nil, List.nil_append]

end

/-- Entries that consist of objects can be classified. -/
theorem ofEntries_eq_ok {entries : List MemberEntry}
    (ofObjects : ∀ entry ∈ entries, entry.OfObjects) (constructorName : Option String)
    (found : Bool) :
    (ofEntries (constructorName.map .str) found entries).outcome =
      .ok (byRole constructorName found entries) := by
  rcases succeeds_split ofObjects (constructorName.map .str) found with ⟨members, splits⟩
  rw [ofEntries_outcome, splits, split_eq_ok splits]

/-- What it means that a table is divided by roles: one for each position, in table order. -/
structure Divides (constructorName : Option String) (found : Bool) (entries : List MemberEntry)
    (roles : List MemberRole) (members : ClassifiedMembers) : Prop where
  everyPosition : roles.length = entries.length
  atMostOne : ∀ position other : Nat, roles[position]? = some .classConstructor →
    roles[other]? = some .classConstructor → position = other
  constructorEntry : members.classConstructor.toList = entriesOf .classConstructor entries roles
  methodEntries : members.methods = entriesOf .method entries roles
  dataEntries : members.data = entriesOf .data entries roles
  isConstructor_iff : ∀ (position : Nat) (entry : MemberEntry), entries[position]? = some entry →
    (roles[position]? = some .classConstructor ↔
      ∃ name, constructorName = some name ∧ found = false ∧ entry.ServesAs name ∧
        ∀ earlier < position, ∀ other, entries[earlier]? = some other → ¬other.ServesAs name)
  isMethod_iff : ∀ (position : Nat) (entry : MemberEntry), entries[position]? = some entry →
    roles[position]? ≠ some .classConstructor →
      (roles[position]? = some .method ↔ entry.IsCallable)

theorem byRole_divides (constructorName : Option String) (found : Bool)
    (entries : List MemberEntry) :
    Divides constructorName found entries (roles constructorName found entries)
      (byRole constructorName found entries) where
  everyPosition := length_roles constructorName found entries
  atMostOne := by
    intro position other isConstructor alsoConstructor
    rw [getElem?_roles_eq_constructor_iff] at isConstructor alsoConstructor
    exact Option.some.inj (isConstructor.symm.trans alsoConstructor)
  constructorEntry := classConstructor_byRole constructorName found entries
  methodEntries := methods_byRole constructorName found entries
  dataEntries := data_byRole constructorName found entries
  isConstructor_iff := by
    intro position entry isThere
    rcases List.getElem?_eq_some_iff.mp isThere with ⟨inTable, rfl⟩
    rw [getElem?_roles_eq_constructor_iff, List.findIdx?_eq_some_iff_getElem]
    constructor
    · rintro ⟨_, may, noneEarlier⟩
      rcases MemberEntry.mayConstruct_iff.mp may with ⟨name, isName, notFound, serves⟩
      refine ⟨name, isName, notFound, serves, ?_⟩
      intro earlier isEarlier other otherThere otherServes
      rcases List.getElem?_eq_some_iff.mp otherThere with ⟨_, rfl⟩
      apply noneEarlier earlier isEarlier
      exact MemberEntry.mayConstruct_iff.mpr ⟨name, isName, notFound, otherServes⟩
    · rintro ⟨name, isName, notFound, serves, noneEarlier⟩
      refine ⟨inTable, MemberEntry.mayConstruct_iff.mpr ⟨name, isName, notFound, serves⟩, ?_⟩
      intro earlier isEarlier otherMay
      rcases MemberEntry.mayConstruct_iff.mp otherMay with ⟨otherName, otherIsName, _, otherServes⟩
      obtain rfl : name = otherName := by simpa [isName] using otherIsName
      exact noneEarlier earlier isEarlier _ (List.getElem?_eq_getElem _) otherServes
  isMethod_iff := by
    intro position entry isThere notConstructor
    rw [Ne, getElem?_roles_eq_constructor_iff] at notConstructor
    rw [getElem?_roles _ _ isThere, if_neg notConstructor, Option.some_inj,
      MemberEntry.ownRole_eq_method_iff, MemberEntry.isMethod_iff]

/--
A classification divides a table by roles, each group in table order. If no
constructor is looked for, every entry is a method or data by itself, and this is
how the members of a classification are classified again.
-/
theorem ofEntries_partitions (constructorName : Option String) (found : Bool)
    {entries : List MemberEntry} (ofObjects : ∀ entry ∈ entries, entry.OfObjects) :
    ∃ members, (ofEntries (constructorName.map .str) found entries).outcome = .ok members ∧
      (∃ roles, Divides constructorName found entries roles members) ∧
      (found = true ∨ constructorName = none →
        members.classConstructor = none ∧ members.methods = entries.filter (·.isMethod) ∧
          members.data = entries.filter (!·.isMethod)) ∧
      ∀ laterName : Option String,
        (ofEntries (laterName.map .str) true (members.methods ++ members.data)).outcome =
          .ok ⟨none, members.methods, members.data⟩ := by
  refine ⟨_, ofEntries_eq_ok ofObjects constructorName found,
    ⟨_, byRole_divides constructorName found entries⟩, ?_, ?_⟩
  · rintro (rfl | rfl)
    · rw [byRole_true]
      exact ⟨rfl, rfl, rfl⟩
    · rw [byRole_none]
      exact ⟨rfl, rfl, rfl⟩
  · intro laterName
    rw [← byRole_again]
    apply ofEntries_eq_ok
    intro entry isMember
    apply ofObjects
    rcases List.mem_append.mp isMember with isMethod | isData
    · exact List.mem_of_mem_eraseP (List.mem_filter.mp isMethod).1
    · exact (List.mem_filter.mp isData).1

/-- The entries of `{get init() {}, init() {}, size: 1, "init"() {}}`. -/
def repeatedNames : List MemberEntry :=
  [⟨Node.identifier (.str "init"), Node.emptyFunction, false, .str "get"⟩,
    ⟨Node.identifier (.str "init"), Node.emptyFunction, false, .str "init"⟩,
    ⟨Node.identifier (.str "size"), Node.literal (.int 1), false, .str "init"⟩,
    ⟨Node.literal (.str "init"), Node.emptyFunction, false, .str "init"⟩]

theorem ofEntries_partitions_repeatedNames :
    (∀ entry ∈ repeatedNames, entry.OfObjects) ∧
      ∃ members, (ofEntries (some (.str "init")) false repeatedNames).outcome = .ok members ∧
        (members.classConstructor = repeatedNames[1]? ∧ members.methods.length = 2 ∧
          members.data.length = 1) ∧
        (∃ roles, Divides (some "init") false repeatedNames roles members) ∧
        (ofEntries (some (.str "init")) true (members.methods ++ members.data)).outcome =
          .ok ⟨none, members.methods, members.data⟩ := by
  have ofObjects : ∀ entry ∈ repeatedNames, entry.OfObjects := by
    simp only [repeatedNames, List.forall_mem_cons]
    exact ⟨⟨⟨_, rfl⟩, _, rfl⟩, ⟨⟨_, rfl⟩, _, rfl⟩, ⟨⟨_, rfl⟩, _, rfl⟩, ⟨⟨_, rfl⟩, _, rfl⟩, nofun⟩
  rcases ofEntries_partitions (some "init") false ofObjects with
    ⟨members, classifies, divides, _, again⟩
  refine ⟨ofObjects, members, classifies, ?_, divides, again (some "init")⟩
  obtain rfl := Except.ok.inj classifies
  decide

end ClassifiedMembers

end ClassLift

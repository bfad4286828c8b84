import Mathlib.Data.List.Forall2
import ClassLift.Proofs.Conversion.Layout

/-!
# Where the members of a class end up

Every property that the two tables of a call keep has one place in the converted
program. `Conversion.members_represented` gives the places: static methods,
declared fields, the constructor and the methods of the class body, and the
assignments of static data after the class. Each group has the order of its
table, and each node carries the key and the value of its property.
-/

namespace ClassLift

/-- A field that is given, or what stands for one that is missing or null. -/
def Json.givenOr (fallback : Json) (found : Option Json) : Json :=
  Node.orElse fallback (found.getD .null)

/-- A function node that keeps the parts of a function literal. -/
structure IsFunctionOf (value function : Json) : Prop where
  isFunction : function.field? "type" = some (.str "FunctionExpression")
  id : function.field? "id" = some ((value.field? "id").getD .null)
  params : function.field? "params" = some (.givenOr (.arr []) (value.field? "params"))
  body : function.field? "body" = some (.givenOr (Node.block (.arr [])) (value.field? "body"))
  generator : function.field? "generator" =
    some (.bool ((value.field? "generator").getD .null).isTruthy)
  async : function.field? "async" = some (.bool ((value.field? "async").getD .null).isTruthy)
  expression : function.field? "expression" =
    some (.bool ((value.field? "expression").getD .null).isTruthy)

theorem isFunctionOf_copiedFunction (value : Json) :
    IsFunctionOf value (Node.copiedFunction value) :=
  ⟨rfl, rfl, rfl, rfl, rfl, rfl, rfl⟩

/-- A method definition that keeps the key and the function of an entry. -/
def IsMethodOf (isStatic : Bool) (entry : MemberEntry) (node : Json) : Prop :=
  ∃ function, IsFunctionOf entry.value function ∧
    node = Node.methodDefinition entry.key function
      (if entry.isAccessor then entry.kind else .str "method") (.bool isStatic)
      (.bool entry.computed)

theorem isMethodOf_toMethod (isStatic : Bool) (entry : MemberEntry) :
    IsMethodOf isStatic entry (entry.toMethod isStatic) :=
  ⟨_, isFunctionOf_copiedFunction entry.value, rfl⟩

theorem forall₂_isMethodOf (isStatic : Bool) (entries : List MemberEntry) :
    List.Forall₂ (IsMethodOf isStatic) entries (entries.map (·.toMethod isStatic)) := by
  rw [List.forall₂_map_right_iff, List.forall₂_same]
  intro entry _
  exact isMethodOf_toMethod isStatic entry

namespace Conversion

/-- The parts of a converted program that come from member tables. -/
structure Parts where
  staticMethods : List Json
  fields : List Json
  classConstructor : Option Json
  methods : List Json
  staticAssignments : List Json

/-- The members of the class. -/
def Parts.body (parts : Parts) : List Json :=
  parts.staticMethods ++ parts.fields ++ parts.classConstructor.toList ++ parts.methods

namespace Arguments

/-- The first member that can serve as the constructor. -/
def constructorEntry (arguments : Arguments) (options : Options) : Option MemberEntry :=
  arguments.memberEntries.find? (·.isConstructorNamed options.constructorName)

/-- The members that are methods; only the one taken as the constructor is not among them. -/
def methodEntries (arguments : Arguments) (options : Options) : List MemberEntry :=
  (arguments.memberEntries.eraseP (·.isConstructorNamed options.constructorName)).filter
    (·.isMethod)

/-- The members that are data. -/
def dataEntries (arguments : Arguments) : List MemberEntry :=
  arguments.memberEntries.filter (!·.isMethod)

theorem byRole_memberEntries (arguments : Arguments) (options : Options) :
    ClassifiedMembers.byRole (some options.constructorName) false arguments.memberEntries =
      ⟨arguments.constructorEntry options, arguments.methodEntries options,
        arguments.dataEntries⟩ :=
  rfl

end Arguments

/-- The initialisers that go into the constructor. -/
def Arguments.initialisers (arguments : Arguments) : Target → List Json
  | .es2015 => arguments.dataEntries.map (·.assignedTo Node.thisExpression)
  | .es2017 => []

/-- The constructor of the class before data is put into it, if it has one. -/
def Arguments.bareConstructor (arguments : Arguments) (options : Options) : Option Json :=
  match arguments.constructorEntry options with
  | some entry => some (Node.classConstructor (Node.copiedFunction entry.value))
  | none =>
      if arguments.dataEntries = [] then none
      else some (Node.synthesisedConstructor options.superclassSegments.isSome)

theorem Arguments.isClassConstructor_bareConstructor (arguments : Arguments) (options : Options)
    {node : Json} (bareIs : arguments.bareConstructor options = some node) :
    Node.isClassConstructor node = true := by
  unfold bareConstructor at bareIs
  split at bareIs
  · rw [← Option.some.inj bareIs]
    rfl
  · split at bareIs
    · simp at bareIs
    · rw [← Option.some.inj bareIs]
      rfl

section Body

variable {options : Options} {parameters : Json} (stages : Stages options parameters)
  {result : InstanceMembers}

/-- The class body of a conversion, put together from the members of the tables. -/
theorem Stages.addition_body_eq (adds : stages.addition.members.outcome = .ok result) :
    stages.addition.body =
        (stages.arguments.staticEntries.filter (·.isMethod)).map (·.toMethod true) ++
          Placement.declaredFields options.target stages.arguments.dataEntries ++
          ((stages.arguments.bareConstructor options).map
            (Placement.initialised options.target · stages.arguments.dataEntries)).toList ++
          (stages.arguments.methodEntries options).map (·.toMethod false) ∧
      (options.target = .es2015 → stages.arguments.dataEntries ≠ [] →
        ∃ node statements, stages.arguments.bareConstructor options = some node ∧
          Node.constructorStatements node = .ok (.arr statements)) := by
  have derivedIs :
      stages.extension.shell.superClass.isSome = options.superclassSegments.isSome := by
    rw [stages.shell_eq, Option.isSome_map]
  have rolesAre := stages.arguments.byRole_memberEntries options
  unfold Stages.addition at adds ⊢
  rw [Stages.staticBody, derivedIs, stages.statics_entries, stages.members_entries] at adds ⊢
  rcases InstanceMembers.add_eq_ok rolesAre.symm adds with
    ⟨before, node, after, seat, bodyIs, _, hasList⟩ | ⟨noEntry, noData, _, bodyIs, _⟩
  · have bareIs : stages.arguments.bareConstructor options = some node ∧
        before = (stages.arguments.staticEntries.filter (·.isMethod)).map (·.toMethod true) ∧
        after = [] := by
      cases seat with
      | taken entry isConstructor =>
          have isTaken : stages.arguments.constructorEntry options = some entry := isConstructor
          exact ⟨by rw [Arguments.bareConstructor, isTaken], rfl, rfl⟩
      | present _ _ _ _ isProduced => simp at isProduced
      | synthesised noEntry _ hasData =>
          have noEntry : stages.arguments.constructorEntry options = none := noEntry
          have hasData : stages.arguments.dataEntries ≠ [] := hasData
          exact ⟨by rw [Arguments.bareConstructor, noEntry, if_neg hasData], rfl, rfl⟩
    rcases bareIs with ⟨bareIs, rfl, rfl⟩
    constructor
    · rw [bodyIs, bareIs]
      simp [InstanceMembers.methodsOf]
    · intro isInline hasData
      rcases hasList isInline hasData with ⟨statements, read⟩
      exact ⟨node, statements, bareIs, read⟩
  · have noEntry : stages.arguments.constructorEntry options = none := noEntry
    have noData : stages.arguments.dataEntries = [] := noData
    have bareIs : stages.arguments.bareConstructor options = none := by
      rw [Arguments.bareConstructor, noEntry, if_pos noData]
    constructor
    · rw [bodyIs, bareIs, noData]
      simp [InstanceMembers.methodsOf]
    · intro _ hasData
      exact absurd noData hasData

end Body

/-- The parts of a converted program represent the members of the tables, each of them once. -/
structure Represents (options : Options) (arguments : Arguments) (target : Json)
    (parts : Parts) : Prop where
  staticMethods : List.Forall₂ (IsMethodOf true)
    (arguments.staticEntries.filter (·.isMethod)) parts.staticMethods
  staticAssignments : parts.staticAssignments =
    (arguments.staticEntries.filter (!·.isMethod)).map (·.assignedTo target)
  methods : List.Forall₂ (IsMethodOf false) (arguments.methodEntries options) parts.methods
  fields : parts.fields =
    match options.target with
    | .es2015 => []
    | .es2017 => arguments.dataEntries.map fun entry =>
        Node.propertyDefinition entry.key entry.value (.bool entry.computed)
  takenConstructor : ∀ entry ∈ arguments.constructorEntry options,
    ∃ function, IsFunctionOf entry.value function ∧
      parts.classConstructor = some (Node.appendStatements (Node.classConstructor function)
        (arguments.initialisers options.target))
  madeConstructor : arguments.constructorEntry options = none →
    parts.classConstructor =
      if arguments.dataEntries = [] then none
      else some (Node.appendStatements
        (Node.synthesisedConstructor options.superclassSegments.isSome)
        (arguments.initialisers options.target))
  initialisedInPlace : arguments.initialisers options.target ≠ [] →
    ∃ node original, parts.classConstructor = some node ∧
      Node.constructorStatements node =
        .ok (.arr (original ++ arguments.initialisers options.target))
  eachStaticOnce : List.Perm
    (arguments.staticEntries.filter (·.isMethod) ++ arguments.staticEntries.filter (!·.isMethod))
    arguments.staticEntries
  eachMemberOnce : List.Perm
    ((arguments.constructorEntry options).toList ++ arguments.methodEntries options ++
      arguments.dataEntries)
    arguments.memberEntries
  keyAndValue : ∀ table ∈ arguments.statics.toList ++ [arguments.members],
    ∀ property ∈ MemberTable.keptProperties table,
      ∃ key value, property.field? "key" = some key ∧ property.field? "value" = some value

theorem initialised_eq (arguments : Arguments) (target : Target) (node : Json) :
    Placement.initialised target node arguments.dataEntries =
      Node.appendStatements node (arguments.initialisers target) := by
  cases target with
  | es2015 => rfl
  | es2017 => exact (Node.appendStatements_nil node).symm

/-- Every property that a table keeps has the key and the value it needs. -/
theorem Stages.keyAndValue {options : Options} {parameters : Json}
    (stages : Stages options parameters) :
    ∀ table ∈ stages.arguments.statics.toList ++ [stages.arguments.members],
      ∀ property ∈ MemberTable.keptProperties table,
        ∃ key value, property.field? "key" = some key ∧ property.field? "value" = some value := by
  intro table tableMem
  rcases List.mem_append.mp tableMem with isStatics | isMembers
  · have staticsRead := stages.staticsRead
    rw [Option.mem_toList] at isStatics
    rw [isStatics] at staticsRead
    exact (MemberTable.read_entries staticsRead).2
  · rw [List.mem_singleton] at isMembers
    rw [isMembers]
    exact (MemberTable.read_entries stages.membersRead).2

/-- The parts that a conversion makes of the members of its tables. -/
def Arguments.parts (arguments : Arguments) (options : Options) (target : Json) : Parts where
  staticMethods := (arguments.staticEntries.filter (·.isMethod)).map (·.toMethod true)
  fields := Placement.declaredFields options.target arguments.dataEntries
  classConstructor := (arguments.bareConstructor options).map
    (Placement.initialised options.target · arguments.dataEntries)
  methods := (arguments.methodEntries options).map (·.toMethod false)
  staticAssignments :=
    (arguments.staticEntries.filter (!·.isMethod)).map (·.assignedTo target)

theorem Stages.represents {options : Options} {parameters : Json}
    (stages : Stages options parameters) {result : InstanceMembers}
    (adds : stages.addition.members.outcome = .ok result) (target : Json) :
    Represents options stages.arguments target (stages.arguments.parts options target) where
  staticMethods := forall₂_isMethodOf true _
  staticAssignments := rfl
  methods := forall₂_isMethodOf false _
  fields := by
    unfold Arguments.parts Placement.declaredFields
    cases options.target <;> rfl
  takenConstructor := by
    intro entry isTaken
    rw [Option.mem_def] at isTaken
    refine ⟨_, isFunctionOf_copiedFunction entry.value, ?_⟩
    simp only [Arguments.parts, Arguments.bareConstructor, isTaken, initialised_eq,
      Option.map_some]
  madeConstructor := by
    intro noEntry
    simp only [Arguments.parts, Arguments.bareConstructor, noEntry, initialised_eq]
    split
    · rfl
    · rfl
  initialisedInPlace := by
    intro hasInitialisers
    cases targetIs : options.target with
    | es2017 => simp [Arguments.initialisers, targetIs] at hasInitialisers
    | es2015 =>
        have hasData : stages.arguments.dataEntries ≠ [] := by
          intro noData
          simp [Arguments.initialisers, targetIs, noData] at hasInitialisers
        rcases (stages.addition_body_eq adds).2 targetIs hasData with
          ⟨node, original, bareIs, read⟩
        refine ⟨_, original, ?_, Node.constructorStatements_appendStatements read _⟩
        simp only [Arguments.parts, bareIs, initialised_eq, Option.map_some, targetIs]
  eachStaticOnce := List.filter_append_perm _ _
  eachMemberOnce :=
    ClassifiedMembers.byRole_perm (some options.constructorName) false
      stages.arguments.memberEntries
  keyAndValue := stages.keyAndValue

/--
Every property that a table of the call keeps is represented once in the
converted program, by a node of its own kind, in table order and with its own key
and value.
-/
theorem members_represented {options : Options} {parameters : Json} {conversion : Conversion}
    (converts : (ofParameters options parameters).outcome = .ok conversion) :
    ∃ (arguments : Arguments) (parts : Parts),
      parameters = .arr (arguments.name :: arguments.statics.toList ++ [arguments.members]) ∧
        conversion.statements = Layout.opening options conversion.path.segments ++
          [Layout.classStatement options conversion.path parts.body] ++ parts.staticAssignments ∧
        Represents options arguments
          (Scope.access options.rootObject conversion.path.segments) parts := by
  rcases exists_stages converts with ⟨stages, _, adds, rfl⟩
  refine ⟨stages.arguments, stages.arguments.parts options
    (Scope.access options.rootObject stages.path.segments), stages.parameters_eq.1, ?_,
    stages.represents adds _⟩
  rw [Stages.conversion, stages.opening_eq, stages.classStatement_eq, stages.trailing_eq,
    (stages.addition_body_eq adds).1]
  rfl

theorem members_represented_sampleCall :
    ∃ conversion, (ofParameters sampleOptions sampleCall).outcome = .ok conversion ∧
      ∃ (arguments : Arguments) (parts : Parts),
        sampleCall = .arr (arguments.name :: arguments.statics.toList ++ [arguments.members]) ∧
          conversion.statements = Layout.opening sampleOptions conversion.path.segments ++
            [Layout.classStatement sampleOptions conversion.path parts.body] ++
            parts.staticAssignments ∧
          Represents sampleOptions arguments
            (Scope.access sampleOptions.rootObject conversion.path.segments) parts :=
  ⟨_, rfl, members_represented rfl⟩

end Conversion

end ClassLift

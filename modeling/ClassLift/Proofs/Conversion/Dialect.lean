import ClassLift.Proofs.Conversion.Members

/-!
# The two targets of a conversion

The target decides where the data of an instance is initialised and nothing else.
A call that can be converted to assignments in the constructor can also be
converted to declared fields, and the two programs differ only in where they keep
the data: take the fields out of the one and the assignments out of the other, and
the same class is left. `Conversion.targets_agree` says so.

The converse fails: assignments need a constructor that has a list of statements.
-/

namespace ClassLift

namespace InstanceMembers

/-- Members that can be added at all can be added with declared fields. -/
theorem exists_add_es2017 (options : Options) {target : Target} {produced derived : Bool}
    {entries : List MemberEntry} {body : List Json} {result : InstanceMembers}
    (adds : (add { options with target } produced derived entries body).members.outcome =
      .ok result) :
    ∃ declared, (add { options with target := .es2017 } produced derived entries
      body).members.outcome = .ok declared := by
  rcases exists_plan_of_add adds with ⟨slot?, plans⟩
  -- The plan does not look at the target, so it stands for both of them.
  have samePlan : (plan { options with target := .es2017 } produced derived entries body).outcome =
      .ok (.byRole (some options.constructorName) produced entries, slot?) := plans
  rw [(add_of_plan samePlan).2]
  rcases chooseSlot_eq_ok (plan_eq_ok_iff.mp plans).2 with ⟨before, node, after, rfl, _⟩ | ⟨rfl, _⟩
  · exact finish_es2017 before (after ++ methodsOf _) (methodsOf _) node _
  · exact ⟨_, rfl⟩

end InstanceMembers

/--
Two class bodies that differ only in where they keep data: the one assigns it at
the end of the constructor, the other declares it right before the constructor.
-/
inductive SameBodyButForData : List MemberEntry → List Json → List Json → Prop where
  | noData (body : List Json) : SameBodyButForData [] body body
  | data (data : List MemberEntry) (before : List Json) (node : Json) (kept after : List Json)
      (isConstructor : Node.isClassConstructor node = true)
      (staysConstructor :
        Node.isClassConstructor (Node.withConstructorStatements node kept) = true)
      (statementsAre : Node.constructorStatements node = .ok (.arr (kept ++
        data.map fun entry =>
          Node.assignmentStatement
            (Node.member Node.thisExpression entry.key (.bool entry.isBracketed)) entry.value))) :
      SameBodyButForData data (before ++ node :: after)
        (before ++
          (data.map fun entry =>
            Node.propertyDefinition entry.key entry.value (.bool entry.computed)) ++
          Node.withConstructorStatements node kept :: after)

/-- Without data there is nothing in which they can differ. -/
theorem SameBodyButForData.eq_of_noData {inline declared : List Json}
    (same : SameBodyButForData [] inline declared) : declared = inline := by
  cases same with
  | noData body => rfl
  | data _ before node kept after _ _ statementsAre =>
      have statementsAre : Node.constructorStatements node = .ok (.arr kept) := by
        simpa using statementsAre
      rw [Node.withConstructorStatements_eq_self statementsAre, List.map_nil, List.append_nil]

theorem sameBodyButForData_initialised (data : List MemberEntry) {node : Json} {kept : List Json}
    (isConstructor : Node.isClassConstructor node = true)
    (read : Node.constructorStatements node = .ok (.arr kept)) (before after : List Json) :
    SameBodyButForData data
      (before ++ Placement.declaredFields .es2015 data ++
        Placement.initialised .es2015 node data :: after)
      (before ++ Placement.declaredFields .es2017 data ++
        Placement.initialised .es2017 node data :: after) := by
  have extended := Node.constructorStatements_appendStatements read (Placement.thisAssignments data)
  have restored : Node.withConstructorStatements
      (Node.appendStatements node (Placement.thisAssignments data)) kept = node := by
    rw [Node.appendStatements_of_read read,
      Node.withConstructorStatements_withConstructorStatements,
      Node.withConstructorStatements_eq_self read]
  have differ := SameBodyButForData.data data before
    (Node.appendStatements node (Placement.thisAssignments data)) kept after
    (by simpa using isConstructor) (restored.symm ▸ isConstructor) extended
  rw [restored] at differ
  have noFields : before ++ Placement.declaredFields .es2015 data = before := List.append_nil before
  rw [noFields]
  exact differ

namespace Conversion

namespace Stages

variable {options : Options} {parameters : Json}

/-- The stages before instance members are added are the same for every target. -/
def retarget (stages : Stages options parameters) (target : Target) :
    Stages { options with target } parameters :=
  { stages with }

section Retargeted

variable (stages : Stages options parameters) {inline declared : InstanceMembers}

theorem exists_addition_es2017
    (inlines : (stages.retarget .es2015).addition.members.outcome = .ok inline) :
    ∃ declared, (stages.retarget .es2017).addition.members.outcome = .ok declared :=
  InstanceMembers.exists_add_es2017 options inlines

theorem addition_body_retarget {target : Target} {result : InstanceMembers}
    (adds : (stages.retarget target).addition.members.outcome = .ok result) :
    (stages.retarget target).addition.body =
        (stages.arguments.staticEntries.filter (·.isMethod)).map (·.toMethod true) ++
          Placement.declaredFields target stages.arguments.dataEntries ++
          ((stages.arguments.bareConstructor options).map
            (Placement.initialised target · stages.arguments.dataEntries)).toList ++
          (stages.arguments.methodEntries options).map (·.toMethod false) ∧
      (target = .es2015 → stages.arguments.dataEntries ≠ [] →
        ∃ node statements, stages.arguments.bareConstructor options = some node ∧
          Node.constructorStatements node = .ok (.arr statements)) :=
  (stages.retarget target).addition_body_eq adds

/-- The class bodies that the same stages lead to for the two targets. -/
theorem sameBodyButForData_addition
    (inlines : (stages.retarget .es2015).addition.members.outcome = .ok inline)
    (declares : (stages.retarget .es2017).addition.members.outcome = .ok declared) :
    SameBodyButForData stages.arguments.dataEntries (stages.retarget .es2015).addition.body
      (stages.retarget .es2017).addition.body := by
  rcases stages.addition_body_retarget inlines with ⟨inlineBody, hasList⟩
  rw [inlineBody, (stages.addition_body_retarget declares).1]
  by_cases hasData : stages.arguments.dataEntries = []
  · rw [hasData]
    simp only [Placement.declaredFields_nil, Placement.initialised_nil]
    exact .noData _
  · rcases hasList rfl hasData with ⟨node, kept, bareIs, read⟩
    have isConstructor := stages.arguments.isClassConstructor_bareConstructor options bareIs
    have differ := sameBodyButForData_initialised stages.arguments.dataEntries isConstructor read
      ((stages.arguments.staticEntries.filter (·.isMethod)).map (·.toMethod true))
      ((stages.arguments.methodEntries options).map (·.toMethod false))
    simp only [bareIs, Option.map_some, Option.toList_some, List.append_assoc, List.cons_append,
      List.nil_append] at differ ⊢
    exact differ

end Retargeted

end Stages

/-- Two conversions that differ only in where the class keeps the given data. -/
structure SameButForData (data : List MemberEntry) (inline declared : Conversion) : Prop where
  sameNamespace : declared.namespaceText = inline.namespaceText
  sameClassName : declared.className = inline.className
  sameWarnings : declared.warnings = inline.warnings
  sameLength : declared.statements.length = inline.statements.length
  sameAround : ∃ opening target name superclass inlineBody declaredBody trailing,
    inline.statements = opening ++
      [Node.assignmentStatement target (Node.classWith name superclass inlineBody)] ++ trailing ∧
    declared.statements = opening ++
      [Node.assignmentStatement target (Node.classWith name superclass declaredBody)] ++ trailing ∧
    SameBodyButForData data inlineBody declaredBody
  sameWithoutData : data = [] → declared.program = inline.program

/-- The target has no part in what the same stages put around the class body. -/
theorem Stages.sameButForData {options : Options} {parameters : Json}
    (stages : Stages options parameters) {inlineBody declaredBody : List Json}
    (differ : SameBodyButForData stages.arguments.dataEntries inlineBody declaredBody) :
    SameButForData stages.arguments.dataEntries (stages.conversion inlineBody)
      (stages.conversion declaredBody) where
  sameNamespace := rfl
  sameClassName := rfl
  sameWarnings := rfl
  sameLength := by simp [Stages.conversion]
  sameAround := by
    refine ⟨stages.opening, Scope.access options.rootObject stages.path.segments,
      .str (Text.capitalised stages.path.className),
      Layout.superclass options.rootObject options.superclassSegments, inlineBody, declaredBody,
      stages.trailing, ?_, ?_, differ⟩
    · rw [Stages.conversion, stages.classStatement_eq]
      rfl
    · rw [Stages.conversion, stages.classStatement_eq]
      rfl
  sameWithoutData := by
    intro noData
    rw [noData] at differ
    rw [differ.eq_of_noData]

/--
A call that is converted with assignments in the constructor is also converted
with declared fields, and the two programs differ only in where the class keeps
the data of its instances.
-/
theorem targets_agree {options : Options} {parameters : Json} {inline : Conversion}
    (converts : (ofParameters { options with target := .es2015 } parameters).outcome =
      .ok inline) :
    ∃ (arguments : Arguments) (declared : Conversion),
      parameters = .arr (arguments.name :: arguments.statics.toList ++ [arguments.members]) ∧
        (ofParameters { options with target := .es2017 } parameters).outcome = .ok declared ∧
        SameButForData arguments.dataEntries inline declared := by
  rcases exists_stages converts with ⟨stages, result, inlines, rfl⟩
  rcases stages.exists_addition_es2017 inlines with ⟨declared, declares⟩
  refine ⟨stages.arguments, stages.conversion (stages.retarget .es2017).addition.body,
    stages.parameters_eq.1, ?_, ?_⟩
  · exact (stages.retarget .es2017).ofParameters_eq_ok declares
  · exact stages.sameButForData (stages.sameBodyButForData_addition inlines declares)

theorem targets_agree_sampleCall :
    ∃ inline, (ofParameters { sampleOptions with target := .es2015 } sampleCall).outcome =
        .ok inline ∧
      ∃ (arguments : Arguments) (declared : Conversion),
        sampleCall = .arr (arguments.name :: arguments.statics.toList ++ [arguments.members]) ∧
          (ofParameters { sampleOptions with target := .es2017 } sampleCall).outcome =
            .ok declared ∧
          SameButForData arguments.dataEntries inline declared :=
  ⟨_, rfl, targets_agree rfl⟩

-- A constructor without a list of statements has no room for assignments.
example :
    let function := Node.ofType "FunctionExpression" [("body", Node.literal (.int 0))]
    let property (name : String) (value : Json) : Json :=
      .obj [("key", Node.identifier (.str name)), ("value", value)]
    let table := Node.ofType "ObjectExpression"
      [("properties", .arr [property "init" function, property "size" (Node.literal (.int 3))])]
    let call := Json.arr [Node.literal (.str "button"), table]
    (ofParameters { Options.default with target := .es2017 } call).outcome.isOk = true ∧
      (ofParameters { Options.default with target := .es2015 } call).outcome.isOk = false :=
  ⟨rfl, rfl⟩

end Conversion

end ClassLift

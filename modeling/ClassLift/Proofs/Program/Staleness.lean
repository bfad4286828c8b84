import ClassLift.Proofs.Conversion.Bindings
import ClassLift.Proofs.Namespace.Guards
import ClassLift.Proofs.Program.Merge
import ClassLift.Proofs.Program.Watch

/-!
# Constants that go stale

A constant `app` records the object that is the member `app` of the global object
when it is declared. A conversion declares its constants and uses them before
anything can replace that object. A merged program declares each constant once,
and uses it in all later conversions. One of these may convert the class `app`
itself, which replaces the member and leaves the constant with the old object.

`Program.constants_current` says that this is the only way: a constant is current
at a use, in every run that gets there, exactly if no class of that name has been
assigned to the global object since its declaration.
-/

namespace ClassLift

namespace Node

theorem dot_inj {object other : Json} {name otherName : String}
    (same : dot object (.str name) = dot other (.str otherName)) :
    object = other ∧ name = otherName := by
  simpa [dot, member, ofType, identifier] using same

theorem dot_ne_identifier (object name other : Json) : dot object name ≠ identifier other := by
  simp [dot, member, ofType, identifier]

end Node

namespace Conversion

/-- The statement that assigns the class. -/
def classStatement? (conversion : Conversion) : Option Json :=
  conversion.statements[conversion.classIndex]?

/-- Whether the class is spelled as a member of the global object. -/
def IsGlobalMember (rootObject name : String) (conversion : Conversion) : Prop :=
  conversion.path.segments = [name] ∨ conversion.path.segments = [rootObject, name]

end Conversion

/-! ## Which statements reassign -/

namespace Scope

theorem chain_identifier_eq_identifier {base other : String} {names : List String}
    (same : chain (Node.identifier (.str base)) names = Node.identifier (.str other)) :
    names = [] ∧ base = other := by
  rcases List.eq_nil_or_concat names with rfl | ⟨front, last, rfl⟩
  · have sameBase := congrArg Node.baseName? same
    simp only [baseName?_chain, Node.baseName?_identifier, Option.some.injEq] at sameBase
    exact ⟨rfl, sameBase⟩
  · rw [List.concat_eq_append, chain_append_singleton] at same
    exact absurd same (Node.dot_ne_identifier _ _ _)

theorem access_eq_globalMember_iff {rootObject name : String} {segments : List String} :
    access rootObject segments = Layout.globalMember rootObject name ↔
      segments = [name] ∨ segments = [rootObject, name] := by
  constructor
  · intro same
    rcases segments with _ | ⟨first, _ | ⟨second, rest⟩⟩
    · exact absurd same.symm (Node.dot_ne_identifier _ _ _)
    · rw [(Node.dot_inj same).2]
      exact .inl rfl
    · -- The last name is that of the member, and there is none before it.
      rcases List.eq_nil_or_concat (second :: rest) with isNil | ⟨front, last, namesAre⟩
      · simp at isNil
      · rw [List.concat_eq_append] at namesAre
        rw [access, namesAre, chain_append_singleton] at same
        rcases Node.dot_inj same with ⟨sameObject, rfl⟩
        rcases chain_identifier_eq_identifier sameObject with ⟨rfl, rfl⟩
        rw [namesAre]
        exact .inr rfl
  · rintro (rfl | rfl)
    · rfl
    · rfl

theorem access_ne_identifier {rootObject other : String} {segments : List String}
    (notEmpty : segments ≠ []) :
    access rootObject segments ≠ Node.identifier (.str other) := by
  intro same
  rcases segments with _ | ⟨first, _ | ⟨second, rest⟩⟩
  · exact notEmpty rfl
  · exact absurd same (Node.dot_ne_identifier _ _ _)
  · exact absurd (chain_identifier_eq_identifier same).1 (by simp)

end Scope

namespace Conversion

section

variable {options : Options} {parameters : Json} {conversion : Conversion} {name : String}
  (converts : (ofParameters options parameters).outcome = .ok conversion)
include converts

/-- Only the class can take the place of a member of the global object. -/
theorem isClass_of_reassigns {before after : List Json} {statement : Json}
    (statementsAre : conversion.statements = before ++ statement :: after)
    (reassigns : Layout.Reassigns options.rootObject name statement) :
    before.length = conversion.classIndex ∧
      conversion.IsGlobalMember options.rootObject name := by
  rcases reassigns with ⟨isAssigned, notGuard⟩
  rcases statement_cases converts statementsAre with
    ⟨_, isOpening⟩ | ⟨isClass, _, members, rfl⟩ | ⟨_, _, key, computed, value, rfl⟩
  · rcases Layout.mem_opening isOpening with ⟨names, rfl⟩ | ⟨other, rfl⟩
    · rw [Option.some.inj isAssigned] at notGuard
      exact absurd rfl notGuard
    · simp [Layout.constant] at isAssigned
  · exact ⟨isClass, Scope.access_eq_globalMember_iff.mp (Option.some.inj isAssigned)⟩
  · -- Static data is a member of the class, and the class is not the global object.
    have sameObject := congrArg (·.field? "object") (Option.some.inj isAssigned)
    have notEmpty : conversion.path.segments ≠ [] := by simp [NamespacePath.segments]
    exact absurd (Option.some.inj sameObject) (Scope.access_ne_identifier notEmpty)

theorem reassigns_classStatement {statement : Json}
    (isGlobalMember : conversion.IsGlobalMember options.rootObject name)
    (isClass : conversion.classStatement? = some statement) :
    Layout.Reassigns options.rootObject name statement := by
  rcases exists_statements_eq converts with ⟨members, data, layoutIs⟩
  have statementIs : Layout.classStatement options conversion.path members = statement := by
    rw [classStatement?, classIndex_eq layoutIs, layoutIs] at isClass
    simpa using isClass
  subst statementIs
  constructor
  · exact congrArg some (Scope.access_eq_globalMember_iff.mpr isGlobalMember)
  · intro same
    have sameKind : true = false := congrArg Node.assignsClass same
    simp at sameKind

/-- In one conversion, nothing replaces a member between its constant and a use of that. -/
theorem not_reassigns_before_use {front between closing : List Json} {use expression : Json}
    (notRoot : name ≠ options.rootObject)
    (statementsAre : conversion.statements =
      front ++ Layout.constant options.rootObject name :: (between ++ use :: closing))
    (isPath : expression ∈ conversion.pathsAt (front.length + 1 + between.length))
    (baseIs : Node.baseName? expression = some name) :
    ∀ statement ∈ between, ¬Layout.Reassigns options.rootObject name statement := by
  intro statement isBetween reassigns
  rcases List.append_of_mem isBetween with ⟨before, after, rfl⟩
  have untilStatement : conversion.statements =
      (front ++ Layout.constant options.rootObject name :: before) ++
        statement :: (after ++ use :: closing) := by
    rw [statementsAre]
    simp
  rcases isClass_of_reassigns converts untilStatement reassigns with ⟨isClass, isGlobalMember⟩
  let earlier := front ++ Layout.constant options.rootObject name :: (before ++ statement :: after)
  have untilUse : conversion.statements = earlier ++ use :: closing := by
    rw [statementsAre]
    simp [earlier]
  have isAfter : conversion.classIndex < earlier.length := by
    simp only [← isClass, earlier, List.length_append, List.length_cons]
    omega
  have samePlace : front.length + 1 + (before ++ statement :: after).length = earlier.length := by
    simp only [earlier, List.length_append, List.length_cons]
    omega
  rw [samePlace] at isPath
  -- After the class there is only static data, which is reached like the class.
  have isAssigned : Node.assigned? use = some expression := by
    rcases mem_assigned?_or_superclass? untilUse isPath with isAssigned | ⟨isClass, _⟩
    · exact isAssigned
    · omega
  have reached := (baseName?_of_assigned converts untilUse (by omega) isAssigned).1
  have fromRoot : Layout.base options.rootObject conversion.path.segments = options.rootObject := by
    rcases isGlobalMember with segmentsAre | segmentsAre
    · rw [segmentsAre]
      rfl
    · rw [segmentsAre]
      rfl
  rw [fromRoot, baseIs, Option.some.injEq] at reached
  exact notRoot reached

end

end Conversion

/-! ## Merged programs -/

namespace Program

/-- How long the constants of a merged program are current. -/
structure ConstantsCurrent (rootObject : String) (conversions : List Conversion)
    (body : List Json) : Prop where
  currentAlone : ∀ conversion ∈ conversions, ∀ name ≠ rootObject,
    ∀ front between use closing, conversion.statements =
        front ++ Layout.constant rootObject name :: (between ++ use :: closing) →
      ∀ expression ∈ conversion.pathsAt (front.length + 1 + between.length),
        Node.baseName? expression = some name →
        ∀ statement ∈ between, ¬Layout.Reassigns rootObject name statement
  reassigned_iff : ∀ name front between closing,
    body = front ++ Layout.constant rootObject name :: (between ++ closing) →
      ((∃ statement ∈ between, Layout.Reassigns rootObject name statement) ↔
        ∃ conversion ∈ conversions, conversion.IsGlobalMember rootObject name ∧
          ∃ statement ∈ between, conversion.classStatement? = some statement)
  usesReached : ∀ name front between use closing,
    body = front ++ Layout.constant rootObject name :: (between ++ use :: closing) →
      ∀ start declaring identity, Watch.run rootObject name start front = some declaring →
        declaring.member = .object identity →
        ∃ before after, Watch.run rootObject name start
            (front ++ Layout.constant rootObject name :: between) = some before ∧
          before.step rootObject name use = some after
  current_iff : ∀ name front between use closing,
    body = front ++ Layout.constant rootObject name :: (between ++ use :: closing) →
      name ∈ Node.bases use →
      ∀ start before after, Watch.run rootObject name start
          (front ++ Layout.constant rootObject name :: between) = some before →
        before.step rootObject name use = some after →
        (before.IsCurrent ↔
          ¬∃ statement ∈ between, Layout.Reassigns rootObject name statement)

section

variable {options : Options} {conversions : List Conversion}
  (converted : ∀ conversion ∈ conversions,
    ∃ parameters, (Conversion.ofParameters options parameters).outcome = .ok conversion)
include converted

theorem reassigned_iff {name : String} {statements : List Json}
    (areMerged : statements ⊆ conversions.flatMap (·.statements)) :
    (∃ statement ∈ statements, Layout.Reassigns options.rootObject name statement) ↔
      ∃ conversion ∈ conversions, conversion.IsGlobalMember options.rootObject name ∧
        ∃ statement ∈ statements, conversion.classStatement? = some statement := by
  constructor
  · rintro ⟨statement, isBetween, reassigns⟩
    rcases List.mem_flatMap.mp (areMerged isBetween) with
      ⟨conversion, conversionMem, statementMem⟩
    rcases converted conversion conversionMem with ⟨parameters, converts⟩
    rcases List.append_of_mem statementMem with ⟨before, after, statementsAre⟩
    rcases Conversion.isClass_of_reassigns converts statementsAre reassigns with
      ⟨isClass, isGlobalMember⟩
    refine ⟨conversion, conversionMem, isGlobalMember, statement, isBetween, ?_⟩
    rw [Conversion.classStatement?, ← isClass, statementsAre]
    simp
  · rintro ⟨conversion, conversionMem, isGlobalMember, statement, isBetween, isClass⟩
    rcases converted conversion conversionMem with ⟨parameters, converts⟩
    exact ⟨statement, isBetween,
      Conversion.reassigns_classStatement converts isGlobalMember isClass⟩

end

theorem program_eq_of_convert {options : Options} {callee : String} {program : Json}
    {converted : Converted} (converts : (convert options callee program).outcome = .ok converted) :
    converted.program = Node.program (.arr
        (withoutRepeats (converted.conversions.flatMap (·.statements)))) ∧
      ∀ conversion ∈ converted.conversions,
        ∃ parameters, (Conversion.ofParameters options parameters).outcome = .ok conversion := by
  rw [convert_outcome] at converts
  cases finds : (convertCalls options (Text.pieces '.' callee) program.walk).outcome with
  | error failure => simp [finds, Except.map] at converts
  | ok conversions =>
      obtain rfl : _ = converted := by simpa [finds, Except.map] using converts
      exact ⟨rfl, exists_parameters_of_mem finds⟩

theorem constant_not_mem_of_nodup {rootObject name : String} {front between : List Json}
    (namesDistinct : ((front ++ Layout.constant rootObject name :: between).filterMap
      Node.constantName?).Nodup) :
    Layout.constant rootObject name ∉ between := by
  intro isAgain
  rw [List.filterMap_append, List.nodup_append, List.filterMap_cons_some
    (Layout.constantName?_constant rootObject name), List.nodup_cons] at namesDistinct
  exact namesDistinct.2.1.1 (List.mem_filterMap.mpr ⟨_, isAgain, rfl⟩)

/--
A constant of a merged program is current at a use, in every run that gets there,
exactly if none of the conversions in between has assigned its class to the member
that the constant was declared for. In a conversion of its own that cannot happen.
-/
theorem constants_current {options : Options} {callee : String} {program : Json}
    {converted : Converted} (converts : (convert options callee program).outcome = .ok converted) :
    ∃ body, converted.program = Node.program (.arr body) ∧
      ConstantsCurrent options.rootObject converted.conversions body := by
  rcases program_eq_of_convert converts with ⟨programIs, areConverted⟩
  have namesDistinct := nodup_constantName?_merged areConverted
  generalize bodyIs : withoutRepeats (converted.conversions.flatMap (·.statements)) = body
    at programIs namesDistinct
  have notAgain : ∀ name front between use closing,
      body = front ++ Layout.constant options.rootObject name :: (between ++ use :: closing) →
        Layout.constant options.rootObject name ∉ between := by
    rintro name front between use closing rfl isAgain
    exact constant_not_mem_of_nodup namesDistinct (List.mem_append_left _ isAgain)
  refine ⟨body, programIs, ?_, ?_, ?_, ?_⟩
  · intro conversion conversionMem name notRoot front between use closing statementsAre expression
      isPath baseIs
    rcases areConverted conversion conversionMem with ⟨parameters, converts⟩
    exact Conversion.not_reassigns_before_use converts notRoot statementsAre isPath baseIs
  · intro name front between closing splits
    apply reassigned_iff areConverted
    intro statement isBetween
    rw [← mem_withoutRepeats, bodyIs, splits]
    simp [isBetween]
  · intro name front between use closing splits start declaring identity runs isObject
    exact Watch.exists_use_of_object (notAgain name front between use closing splits) runs isObject
      use
  · intro name front between use closing splits uses start before after runs steps
    exact Watch.isCurrent_iff (notAgain name front between use closing splits) runs steps uses

/-- A program with a call for each of the namespaces. -/
def programOf (namespaces : List String) : Json :=
  let callee := Node.dot (Node.identifier (.str "$")) (.str "Class")
  let call (namespaceText : String) : Json :=
    Node.expressionStatement (Node.ofType "CallExpression"
      [("callee", callee), ("arguments", Conversion.bareCall namespaceText)])
  Node.program (.arr (namespaces.map call))

/-- The statement that assigns a class without members. -/
def bareClass (target : Json) (name : String) : Json :=
  Node.assignmentStatement target (Node.classWith (.str name) .null [])

def appGuard : Json :=
  Scope.guard (Layout.globalMember "window" "app")

/-- What stands between the constant for `app` and the class `app.Menu`, which uses it. -/
def betweenUses (others : List Json) : List Json :=
  bareClass (Scope.chain (Node.identifier (.str "app")) ["Button"]) "Button" ::
    (others ++ [appGuard])

def menuClass : Json :=
  bareClass (Scope.chain (Node.identifier (.str "app")) ["Menu"]) "Menu"

/-- The body of a program for `app.Button`, other classes and `app.Menu`. -/
def bodyWith (others : List Json) : List Json :=
  appGuard :: Layout.constant "window" "app" :: (betweenUses others ++ [menuClass])

/-- The class `app`, in place of the container that the constant holds. -/
def appClass : Json :=
  bareClass (Layout.globalMember "window" "app") "App"

/-- Before the program runs, there is no member `app`. -/
def missingApp : Watch :=
  ⟨.scalar .undefined, none, 0, nofun, nofun⟩

theorem run_appGuard :
    missingApp.run "window" "app" [appGuard] = some missingApp.replace := by
  rw [Watch.run_cons, appGuard, Watch.step_guard (by decide)]
  rfl

theorem mem_bases_menuClass : "app" ∈ Node.bases menuClass := by
  have basesAre : Node.bases menuClass =
      [Scope.chain (Node.identifier (.str "app")) ["Menu"]].filterMap Node.baseName? := rfl
  rw [basesAre]
  simp

/-- The second constant for `app` is dropped. -/
theorem withoutRepeats_sample {others : List Json}
    (othersAre : others = [] ∨ others = [appClass]) :
    withoutRepeats (appGuard :: Layout.constant "window" "app" ::
      (betweenUses others ++ [Layout.constant "window" "app", menuClass])) = bodyWith others := by
  rcases othersAre with rfl | rfl
  · simp [withoutRepeats_eq, keepFirst, bodyWith, betweenUses, appGuard, Scope.guard, bareClass,
      menuClass, Layout.constant_ne_assignmentStatement]
  · simp [withoutRepeats_eq, keepFirst, bodyWith, betweenUses, appGuard, Scope.guard, bareClass,
      menuClass, appClass, Layout.constant_ne_assignmentStatement]

theorem convert_programOf (namespaces : List String) {others : List Json}
    (othersAre : others = [] ∨ others = [appClass])
    (finds : ∃ conversions, (convertCalls Options.default (Text.pieces '.' "$.Class")
        (programOf namespaces).nodes).outcome = .ok conversions ∧
      conversions.flatMap (·.statements) = appGuard :: Layout.constant "window" "app" ::
        (betweenUses others ++ [Layout.constant "window" "app", menuClass])) :
    ∃ converted, (convert Options.default "$.Class" (programOf namespaces)).outcome =
        .ok converted ∧
      converted.program = Node.program (.arr (bodyWith others)) := by
  rcases finds with ⟨conversions, finds, statementsAre⟩
  have converts := convert_outcome Options.default "$.Class" (programOf namespaces)
  rw [Json.walk_eq_nodes, finds] at converts
  refine ⟨_, converts, ?_⟩
  simp only [statementsAre, withoutRepeats_sample othersAre]

theorem not_reassigns_betweenUses :
    ¬∃ statement ∈ betweenUses [], Layout.Reassigns "window" "app" statement := by
  rintro ⟨statement, isBetween, isAssigned, notGuard⟩
  simp only [betweenUses, List.nil_append, List.mem_cons, List.not_mem_nil, or_false] at isBetween
  rcases isBetween with rfl | rfl
  · have sameBase := congrArg (·.bind Node.baseName?) isAssigned
    have assignedIs : Node.assigned? (bareClass (Scope.chain (Node.identifier (.str "app"))
        ["Button"]) "Button") =
          some (Scope.chain (Node.identifier (.str "app")) ["Button"]) := rfl
    simp [assignedIs, Layout.globalMember, Node.dot] at sameBase
  · exact notGuard rfl

theorem constants_current_twoClasses :
    ∃ converted before after,
      (convert Options.default "$.Class" (programOf ["app.Button", "app.Menu"])).outcome =
        .ok converted ∧
      converted.program = Node.program (.arr (bodyWith [])) ∧
      missingApp.run "window" "app"
        ([appGuard] ++ Layout.constant "window" "app" :: betweenUses []) = some before ∧
      before.step "window" "app" menuClass = some after ∧ before.IsCurrent := by
  rcases convert_programOf ["app.Button", "app.Menu"] (.inl rfl) ⟨_, rfl, rfl⟩ with
    ⟨converted, converts, programIs⟩
  rcases constants_current converts with ⟨body, bodyIs, isCurrent⟩
  have bodyIs : body = [appGuard] ++ Layout.constant "window" "app" ::
      (betweenUses [] ++ menuClass :: []) := by
    simpa [Node.program, Node.ofType, bodyWith] using bodyIs.symm.trans programIs
  rcases isCurrent.usesReached _ _ _ _ _ bodyIs _ _ _ run_appGuard rfl with
    ⟨before, after, runs, steps⟩
  exact ⟨converted, before, after, converts, programIs, runs, steps,
    (isCurrent.current_iff _ _ _ _ _ bodyIs mem_bases_menuClass _ _ _ runs steps).mpr
      not_reassigns_betweenUses⟩

/-- With the class `app` in between, `app.Menu` is assigned to the container of before. -/
theorem constants_current_replacedRoot :
    ∃ converted before after,
      (convert Options.default "$.Class"
        (programOf ["app.Button", "app", "app.Menu"])).outcome = .ok converted ∧
      converted.program = Node.program (.arr ([appGuard] ++ Layout.constant "window" "app" ::
        (betweenUses [appClass] ++ menuClass :: []))) ∧
      "app" ∈ Node.bases menuClass ∧
      (∃ statement ∈ betweenUses [appClass], Layout.Reassigns "window" "app" statement) ∧
      missingApp.run "window" "app"
        ([appGuard] ++ Layout.constant "window" "app" :: betweenUses [appClass]) = some before ∧
      before.step "window" "app" menuClass = some after ∧ ¬before.IsCurrent := by
  rcases convert_programOf ["app.Button", "app", "app.Menu"] (.inr rfl) ⟨_, rfl, rfl⟩ with
    ⟨converted, converts, programIs⟩
  have reassigned : ∃ statement ∈ betweenUses [appClass],
      Layout.Reassigns "window" "app" statement := by
    refine ⟨appClass, by simp [betweenUses], rfl, ?_⟩
    intro same
    have sameKind : true = false := congrArg Node.assignsClass same
    simp at sameKind
  have notAgain : Layout.constant "window" "app" ∉ betweenUses [appClass] := by
    simp [betweenUses, bareClass, appClass, appGuard, Scope.guard,
      Layout.constant_ne_assignmentStatement]
  rcases Watch.exists_use_of_object notAgain run_appGuard rfl menuClass with
    ⟨before, after, runs, steps⟩
  refine ⟨converted, before, after, converts, programIs, mem_bases_menuClass, reassigned, runs,
    steps, ?_⟩
  rw [Watch.isCurrent_iff notAgain runs steps mem_bases_menuClass]
  exact fun notReassigned => notReassigned reassigned

end Program

end ClassLift

import Mathlib.Data.List.TakeWhile
import ClassLift.Proofs.Conversion.Members
import ClassLift.Proofs.Conversion.Paths
import ClassLift.Proofs.Conversion.Verdict

/-!
# What a superclass changes

Whether a class extends another is asked for by one option and named by another.
The name has no part in a conversion that does not ask for a superclass, and a
blank name only adds a warning. A proper name changes three things: there may be
one more constant before the class, the class says what it extends, and a
constructor that is made up for data takes all arguments and hands them to the
superclass. Everything else is the same, failures included.

Two runs fail alike stage by stage, so the comparison of failures follows the
stages of a conversion. What two successful runs have in common is read off their
layouts.
-/

namespace ClassLift

/-- The failure of a computation, if it fails. -/
def failure? {α : Type} : Except Failure α → Option Failure
  | .ok _ => none
  | .error failure => some failure

section

variable {α β γ δ : Type}

theorem failure?_eq_some_iff {outcome : Except Failure α} {failure : Failure} :
    failure? outcome = some failure ↔ outcome = .error failure := by
  cases outcome with
  | ok value => simp [failure?]
  | error other => simp [failure?]

theorem failure?_eq_none_iff {outcome : Except Failure α} :
    failure? outcome = none ↔ Succeeds outcome := by
  cases outcome with
  | ok value => simp [failure?, Succeeds]
  | error other => simp [failure?, Succeeds]

/-- Two computations fail alike if their first parts do, and what follows these does. -/
theorem failure?_bind_congr {first : Except Failure α} {other : Except Failure β}
    {second : α → Except Failure γ} {otherSecond : β → Except Failure δ}
    (same : failure? first = failure? other)
    (goesOn : ∀ value otherValue, first = .ok value → other = .ok otherValue →
      failure? (second value) = failure? (otherSecond otherValue)) :
    failure? (first >>= second) = failure? (other >>= otherSecond) := by
  cases first with
  | error failure =>
      have fails : other = .error failure := failure?_eq_some_iff.mp same.symm
      rw [fails]
      rfl
  | ok value =>
      rcases failure?_eq_none_iff.mp same.symm with ⟨otherValue, succeeds⟩
      rw [succeeds]
      exact goesOn value otherValue rfl succeeds

theorem failure?_bind_right {first : Except Failure α} {second : α → Except Failure γ}
    {otherSecond : α → Except Failure δ}
    (goesOn : ∀ value, failure? (second value) = failure? (otherSecond value)) :
    failure? (first >>= second) = failure? (first >>= otherSecond) := by
  cases first with
  | error failure => rfl
  | ok value => exact goesOn value

end

/-! ## Constructors made up for data -/

namespace InstanceMembers

/-- Where the constructor of a body goes that has none yet. -/
theorem chooseSlot_unproduced (derived : Bool) (members : ClassifiedMembers) (body : List Json) :
    (chooseSlot false derived members body).outcome = .ok
      (match members.classConstructor with
        | some entry =>
            some (.within body (Node.classConstructor (Node.copiedFunction entry.value)) [])
        | none =>
            if members.data.isEmpty then none
            else some (.within body (Node.synthesisedConstructor derived) [])) := by
  unfold chooseSlot
  cases members.classConstructor with
  | some entry => rfl
  | none =>
      simp only [Traced.outcome_bind, Traced.outcome_liftM, Bool.false_eq_true, if_false]
      cases members.data.isEmpty with
      | true => rfl
      | false => rfl

/-- A constructor with a list of statements fails to take data only for the data. -/
theorem failure?_finish (target : Target) {node : Json} {statements : List Json}
    (hasList : Node.constructorStatements node = .ok (.arr statements))
    (before after methods : List Json) (data : List MemberEntry) :
    failure? (finish target (.within before node after) methods data).members.outcome =
      match target with
      | .es2015 => (Placement.initialisers data).2
      | .es2017 => none := by
  cases target with
  | es2017 => exact failure?_eq_none_iff.mpr (finish_es2017 before after methods node data)
  | es2015 =>
      unfold finish
      split
      · rename_i noData
        rw [List.isEmpty_iff.mp noData]
        rfl
      · have places : (Placement.place .es2015 (.within before node after) data).2 =
            (Placement.initialisers data).2 := by
          simp only [Placement.place, Placement.initialise, ConstructorSlot.node, hasList]
        simp only [places]
        cases (Placement.initialisers data).2 with
        | none => rfl
        | some failure => rfl

/-- Whether the class is derived has no part in whether its members can be added. -/
theorem failure?_add_derived (options : Options) (derived : Bool) (entries : List MemberEntry)
    (body : List Json) :
    failure? (add options false derived entries body).members.outcome =
      failure? (add options false false entries body).members.outcome := by
  cases splits : ClassifiedMembers.split (some (.str options.constructorName)) false entries with
  | error failure =>
      have failsToPlan : ∀ derived, (plan options false derived entries body).outcome =
          .error failure := by
        intro derived
        simp only [plan, Traced.outcome_bind, ClassifiedMembers.ofEntries_outcome, splits]
        rfl
      rw [add_eq, add_eq, failsToPlan, failsToPlan]
  | ok members =>
      have plans := fun derived => plan_eq_ok_iff.mpr
        ⟨splits, chooseSlot_unproduced derived members body⟩
      rw [(add_of_plan (plans derived)).2, (add_of_plan (plans false)).2]
      cases members.classConstructor with
      | some entry => rfl
      | none =>
          cases members.data.isEmpty with
          | true => rfl
          | false =>
              -- Both made-up constructors have a list of statements.
              have finishes : ∀ derived, failure? (carryOut options.target false body members
                  (some (.within body (Node.synthesisedConstructor derived) []))).members.outcome =
                    match options.target with
                    | .es2015 => (Placement.initialisers members.data).2
                    | .es2017 => none := by
                intro derived
                cases derived with
                | false => exact failure?_finish options.target rfl body _ _ _
                | true => exact failure?_finish options.target rfl body _ _ _
              exact (finishes derived).trans (finishes false).symm

end InstanceMembers

namespace Node

/-- A constructor that takes no arguments and has the given statements. -/
def withoutArguments (node : Json) (statements : List Json) : Json :=
  withConstructorStatements (node.update "value" (·.update "params" fun _ => .arr [])) statements

/-- Whether a constructor takes all arguments and first hands them to the superclass. -/
structure Forwards (node : Json) (others : List Json) : Prop where
  isConstructor : isClassConstructor node = true
  params : (node.field? "value").bind (·.field? "params") =
    some (.arr [restElement (.str "args")])
  statements : constructorStatements node =
    .ok (.arr (superCallStatement (.str "args") :: others))

end Node

/--
Two class bodies that differ only in a constructor that was made up: it hands its
arguments to the superclass in the one, and takes none in the other.
-/
inductive SameBodyButForSuperCall : Bool → List Json → List Json → Prop where
  | notMadeUp (body : List Json) : SameBodyButForSuperCall false body body
  | madeUp (before : List Json) (node : Json) (statements after : List Json)
      (forwards : Node.Forwards node statements) :
      SameBodyButForSuperCall true (before ++ node :: after)
        (before ++ Node.withoutArguments node statements :: after)

theorem forwards_initialised (target : Target) (data : List MemberEntry) :
    ∃ statements,
      Node.Forwards (Placement.initialised target (Node.synthesisedConstructor true) data)
        statements ∧
      Node.withoutArguments (Placement.initialised target (Node.synthesisedConstructor true) data)
        statements = Placement.initialised target (Node.synthesisedConstructor false) data := by
  cases target with
  | es2015 => exact ⟨Placement.thisAssignments data, ⟨rfl, rfl, rfl⟩, rfl⟩
  | es2017 => exact ⟨[], ⟨rfl, rfl, rfl⟩, rfl⟩

/-- The options with or without the demand for a superclass. -/
def Options.extending (options : Options) (extended : Bool) : Options :=
  { options with extended }

namespace Conversion

/-- Whether a constructor is made up for the data of a call. -/
def Arguments.makesUpConstructor (arguments : Arguments) (options : Options) : Bool :=
  (arguments.constructorEntry options).isNone && !arguments.dataEntries.isEmpty

/-- The members of the class that the arguments of a call lead to. -/
def Arguments.classBody (arguments : Arguments) (options : Options) : List Json :=
  (arguments.staticEntries.filter (·.isMethod)).map (·.toMethod true) ++
    Placement.declaredFields options.target arguments.dataEntries ++
    ((arguments.bareConstructor options).map
      (Placement.initialised options.target · arguments.dataEntries)).toList ++
    (arguments.methodEntries options).map (·.toMethod false)

section

variable {options : Options}

theorem superclassSegments_unextended (options : Options) :
    (options.extending false).superclassSegments = none :=
  rfl

theorem superclassSegments_extended {dotted : String}
    (named : options.extendedNamespace = some dotted)
    (isDotted : isDottedName (Text.trimmed dotted) = true) :
    (options.extending true).superclassSegments =
      some (Text.pieces '.' (Text.trimmed dotted)) := by
  have notBlank : Text.trimmed dotted ≠ "" := by
    simp only [isDottedName, Bool.and_eq_true, decide_eq_true_eq] at isDotted
    exact isDotted.1
  simp [Options.superclassSegments, Options.extending, named, notBlank]

theorem sameBodyButForSuperCall_classBody (arguments : Arguments) {segments : List String}
    (superclassIs : (options.extending true).superclassSegments = some segments) :
    SameBodyButForSuperCall (arguments.makesUpConstructor options)
      (arguments.classBody (options.extending true))
      (arguments.classBody (options.extending false)) := by
  have sameEntry : ∀ extended, arguments.constructorEntry (options.extending extended) =
      arguments.constructorEntry options := fun _ => rfl
  unfold Arguments.classBody Arguments.makesUpConstructor Arguments.bareConstructor
  rw [sameEntry, sameEntry, superclassIs, superclassSegments_unextended]
  cases taken : arguments.constructorEntry options with
  | some entry => exact .notMadeUp _
  | none =>
      by_cases noData : arguments.dataEntries = []
      · simp only [noData, if_true]
        exact .notMadeUp _
      · have hasData : arguments.dataEntries.isEmpty = false := by simpa using noData
        rcases forwards_initialised options.target arguments.dataEntries with
          ⟨statements, forwards, restored⟩
        have differ := SameBodyButForSuperCall.madeUp
          ((arguments.staticEntries.filter (·.isMethod)).map (·.toMethod true) ++
            Placement.declaredFields options.target arguments.dataEntries)
          _ statements ((arguments.methodEntries options).map (·.toMethod false)) forwards
        rw [restored] at differ
        simp only [noData, if_false, hasData, Option.map_some, Option.toList_some,
          List.append_assoc, List.singleton_append] at differ ⊢
        exact differ

/-! ## Failures -/

/-- Whether a superclass is named properly has no part in whether a call can be converted. -/
theorem failure?_ofParameters_extending (named : misnamesSuperclass (options.extending true) = false)
    (parameters : Json) :
    failure? (ofParameters (options.extending true) parameters).outcome =
      failure? (ofParameters (options.extending false) parameters).outcome := by
  simp only [ofParameters, Traced.outcome_bind, Traced.outcome_liftM, Scope.resolve_outcome,
    Traced.outcome_record, Traced.outcome_pure, ok_bind]
  refine failure?_bind_right fun arguments => ?_
  refine failure?_bind_right fun dotted => ?_
  refine failure?_bind_right fun path => ?_
  refine failure?_bind_right fun statics => ?_
  refine failure?_bind_right fun members => ?_
  refine failure?_bind_congr ?bothExtend fun extension plain extended unextended => ?_
  case bothExtend =>
    rw [failure?_eq_none_iff.mpr (succeeds_extendShell named _ _),
      failure?_eq_none_iff.mpr (succeeds_extendShell rfl _ _)]
  refine failure?_bind_right fun staticMembers => ?_
  refine failure?_bind_congr ?bothAdd fun _ _ _ _ => ?_
  case bothAdd =>
    exact (InstanceMembers.failure?_add_derived _ _ _ _).trans
      (InstanceMembers.failure?_add_derived _ _ _ _).symm
  -- The class is reached in the same way, whatever the superclass has added to the scope.
  have extension := extendShell_eq_ok rfl extended
  have plain := extendShell_eq_ok rfl unextended
  have reached := Scope.accessor_of_declared extension.2.2.2.1
  have reachedPlain := Scope.accessor_of_declared plain.2.2.2.1
  rw [extension.2.2.1] at reached
  rw [plain.2.2.1] at reachedPlain
  refine failure?_bind_congr ?bothAssign fun _ _ _ _ => rfl
  case bothAssign =>
    rw [StaticMembers.assignments, StaticMembers.assignments, reached, reachedPlain]
    rfl

end

/-! ## Conversions -/

/-- What is read of a call does not depend on the options. -/
theorem Stages.sameReadings {options otherOptions : Options} {parameters : Json}
    (stages : Stages options parameters) (others : Stages otherOptions parameters) :
    stages.arguments = others.arguments ∧ stages.path = others.path ∧
      stages.statics = others.statics ∧ stages.members = others.members := by
  have sameArguments : stages.arguments = others.arguments :=
    Except.ok.inj (stages.argumentsRead.symm.trans others.argumentsRead)
  have nameRead := stages.nameRead
  have pathRead := stages.pathRead
  have staticsRead := stages.staticsRead
  have membersRead := stages.membersRead
  rw [sameArguments] at nameRead staticsRead membersRead
  have sameText : stages.text = others.text :=
    Json.str.inj (Except.ok.inj (nameRead.symm.trans others.nameRead))
  rw [sameText] at pathRead
  exact ⟨sameArguments, Except.ok.inj (pathRead.symm.trans others.pathRead),
    Except.ok.inj (staticsRead.symm.trans others.staticsRead),
    Except.ok.inj (membersRead.symm.trans others.membersRead)⟩

/-- There is a warning only if a superclass is asked for and none is named. -/
theorem extendShell_warnings {options : Options} {shell : ClassShell} {scope : Scope}
    {extension : ClassShell.Extension}
    (extends_ : (extendShell options shell scope).outcome = .ok extension)
    (named : options.extended = true → options.superclassSegments.isSome = true) :
    extension.warnings = [] := by
  unfold extendShell at extends_
  split at extends_
  · rename_i extended
    rw [Traced.outcome_bind, Traced.outcome_liftM, bind_eq_ok_iff] at extends_
    rcases extends_ with ⟨path?, pathRead, extends_⟩
    have segmentsAre := (superclassSegments_of_extendedPath extended pathRead).1
    cases path? with
    | none => simp [segmentsAre, extended] at named
    | some path =>
        rw [ClassShell.extend_some_outcome, Except.ok.injEq] at extends_
        rw [← extends_]
  · rw [Traced.outcome_pure, Except.ok.injEq] at extends_
    rw [← extends_]

/--
Two conversions that differ only in the superclass: a constant for its root may
stand before the class, the class extends it, and a constructor that was made up
hands its arguments to it.
-/
structure SameButForSuperclass (rootObject : String) (segments : List String) (madeUp : Bool)
    (extended plain : Conversion) : Prop where
  sameNamespace : extended.namespaceText = plain.namespaceText
  sameClassName : extended.className = plain.className
  sameWarnings : extended.warnings = plain.warnings
  sameAround : ∃ opening constants target name extendedBody plainBody trailing,
    extended.statements = opening ++ constants ++
      [Node.assignmentStatement target
        (Node.classWith name (Scope.access rootObject segments) extendedBody)] ++ trailing ∧
    plain.statements = opening ++
      [Node.assignmentStatement target (Node.classWith name .null plainBody)] ++ trailing ∧
    constants.length ≤ 1 ∧ (∀ statement ∈ constants, Node.isConstant statement = true) ∧
    SameBodyButForSuperCall madeUp extendedBody plainBody

theorem Stages.statements_eq {options : Options} {parameters : Json}
    (stages : Stages options parameters) {result : InstanceMembers}
    (adds : stages.addition.members.outcome = .ok result) :
    (stages.conversion stages.addition.body).statements =
      Layout.opening options stages.path.segments ++
        [Layout.classStatement options stages.path (stages.arguments.classBody options)] ++
        Layout.staticAssignments options stages.path.segments
          (stages.arguments.staticEntries.filter (!·.isMethod)) := by
  rw [Stages.conversion, stages.opening_eq, stages.classStatement_eq, stages.trailing_eq,
    (stages.addition_body_eq adds).1]
  rfl

theorem length_superclassConstants_le (rootObject : String) (segments : List String)
    (superSegments? : Option (List String)) :
    (Layout.superclassConstants rootObject segments superSegments?).length ≤ 1 ∧
      ∀ statement ∈ Layout.superclassConstants rootObject segments superSegments?,
        Node.isConstant statement = true := by
  unfold Layout.superclassConstants
  split
  · split
    · simp
    · simp
  · simp

theorem Stages.sameButForSuperclass {options : Options} {parameters : Json}
    {segments : List String}
    (superclassIs : (options.extending true).superclassSegments = some segments)
    (extended : Stages (options.extending true) parameters)
    (plain : Stages (options.extending false) parameters) {result plainResult : InstanceMembers}
    (adds : extended.addition.members.outcome = .ok result)
    (addsPlain : plain.addition.members.outcome = .ok plainResult) :
    SameButForSuperclass options.rootObject segments
      (plain.arguments.makesUpConstructor options)
      (extended.conversion extended.addition.body) (plain.conversion plain.addition.body) := by
  rcases extended.sameReadings plain with ⟨sameArguments, samePath, sameStatics, sameMembers⟩
  refine ⟨?_, ?_, ?_, ?_⟩
  · change extended.path.dotted = plain.path.dotted
    rw [samePath]
  · change extended.extension.shell.name = plain.extension.shell.name
    rw [extended.shell_eq, plain.shell_eq, samePath]
  · have noWarning := extendShell_warnings extended.shellExtended fun _ => by simp [superclassIs]
    have noWarningPlain := extendShell_warnings plain.shellExtended nofun
    simp only [Stages.conversion, noWarning, noWarningPlain, sameStatics, sameMembers]
  · have constants := length_superclassConstants_le options.rootObject plain.path.segments
      (some segments)
    refine ⟨Layout.opening (options.extending false) plain.path.segments,
      Layout.superclassConstants options.rootObject plain.path.segments (some segments),
      Scope.access options.rootObject plain.path.segments,
      .str (Text.capitalised plain.path.className),
      plain.arguments.classBody (options.extending true),
      plain.arguments.classBody (options.extending false),
      Layout.staticAssignments options plain.path.segments
        (plain.arguments.staticEntries.filter (!·.isMethod)),
      ?_, plain.statements_eq addsPlain, constants.1, constants.2,
      sameBodyButForSuperCall_classBody plain.arguments superclassIs⟩
    rw [extended.statements_eq adds, sameArguments, samePath, Layout.opening,
      Layout.classStatement, superclassIs]
    simp only [Layout.opening, superclassSegments_unextended, Layout.superclassConstants,
      List.append_nil]
    rfl

/-! ## The frame of the option -/

/-- A text without any character that is not blank. -/
def isBlankName (text : String) : Bool :=
  text.toList.all Text.isBlank

theorem trimmed_of_isBlankName {text : String} (isBlank : isBlankName text = true) :
    Text.trimmed text = "" := by
  have nothingLeft : text.toList.dropWhile Text.isBlank = [] := by
    rw [List.dropWhile_eq_nil_iff]
    exact List.all_eq_true.mp isBlank
  simp [Text.trimmed, Text.trimmedChars, nothingLeft]

/-- The conversion with one more warning after the others. -/
def withWarning (warning : String) (conversion : Conversion) : Conversion :=
  { conversion with warnings := conversion.warnings ++ [warning] }

theorem map_bind {α β γ : Type} (change : β → γ) (first : Except Failure α)
    (second : α → Except Failure β) :
    (first >>= second).map change = first >>= fun value => (second value).map change := by
  cases first with
  | error failure => rfl
  | ok value => rfl

/-- A superclass that is asked for and not named leaves nothing but a warning. -/
theorem ofParameters_of_blank {options : Options}
    (isBlank : options.extendedNamespace.all isBlankName = true) (parameters : Json) :
    (ofParameters (options.extending true) parameters).outcome =
      (ofParameters (options.extending false) parameters).outcome.map
        (withWarning ClassShell.missingSuperclass) := by
  have noPath : (options.extending true).extendedPath = .ok none := by
    cases named : options.extendedNamespace with
    | none => simp [Options.extendedPath, Options.extending, named]
    | some text =>
        have blankText : isBlankName text = true := by simpa [named] using isBlank
        simp [Options.extendedPath, Options.extending, named, trimmed_of_isBlankName blankText]
  have warns : ∀ shell scope, (extendShell (options.extending true) shell scope).outcome =
      .ok ⟨shell, scope, [], [ClassShell.missingSuperclass]⟩ := by
    intro shell scope
    have asked : (options.extending true).extended = true := rfl
    rw [extendShell, if_pos asked, Traced.outcome_bind, Traced.outcome_liftM, noPath]
    rfl
  have doesNot : ∀ shell scope, (extendShell (options.extending false) shell scope).outcome =
      .ok ⟨shell, scope, [], []⟩ := fun _ _ => rfl
  simp only [ofParameters, Traced.outcome_bind, Traced.outcome_liftM, Scope.resolve_outcome,
    ok_bind, warns, doesNot, map_bind]
  simp only [Traced.outcome_pure, Except.map, withWarning, List.append_nil]
  rfl

/--
The option for a superclass, as a comparison of two runs. Without it the name of
the superclass is not looked at. With it and a blank name there is one more
warning. With it and a proper name the same calls fail, for the same reasons, and
the conversions of all others differ only in the superclass.
-/
theorem superclass_framed (options : Options) (parameters : Json) :
    (∀ name?, ofParameters (Options.extending { options with extendedNamespace := name? } false)
        parameters = ofParameters (options.extending false) parameters) ∧
      (options.extendedNamespace.all isBlankName = true →
        (ofParameters (options.extending true) parameters).outcome =
          (ofParameters (options.extending false) parameters).outcome.map
            (withWarning ClassShell.missingSuperclass)) ∧
      ∀ dotted, options.extendedNamespace = some dotted →
        isDottedName (Text.trimmed dotted) = true →
        (∀ failure, (ofParameters (options.extending true) parameters).outcome = .error failure ↔
          (ofParameters (options.extending false) parameters).outcome = .error failure) ∧
        ∀ plain, (ofParameters (options.extending false) parameters).outcome = .ok plain →
          ∃ (arguments : Arguments) (extended : Conversion),
            parameters = .arr (arguments.name :: arguments.statics.toList ++ [arguments.members]) ∧
              (ofParameters (options.extending true) parameters).outcome = .ok extended ∧
              SameButForSuperclass options.rootObject (Text.pieces '.' (Text.trimmed dotted))
                (arguments.makesUpConstructor options) extended plain := by
  refine ⟨fun _ => rfl, fun isBlank => ofParameters_of_blank isBlank parameters, ?_⟩
  intro dotted named isDotted
  have notMisnamed : misnamesSuperclass (options.extending true) = false := by
    simp [misnamesSuperclass, Options.extending, named, isDotted]
  have failAlike := failure?_ofParameters_extending notMisnamed parameters
  constructor
  · intro failure
    rw [← failure?_eq_some_iff, ← failure?_eq_some_iff, failAlike]
  · intro plain converts
    rw [converts, failure?, failure?_eq_none_iff] at failAlike
    rcases failAlike with ⟨extended, convertsExtended⟩
    rcases exists_stages converts with ⟨plainStages, _, addsPlain, rfl⟩
    rcases exists_stages convertsExtended with ⟨stages, _, adds, rfl⟩
    exact ⟨plainStages.arguments, _, plainStages.parameters_eq.1, convertsExtended,
      stages.sameButForSuperclass (superclassSegments_extended named isDotted) plainStages adds
        addsPlain⟩

/-- A call that has data and no constructor. -/
def dataCall : Json :=
  .arr [Node.literal (.str "app.ui.label"),
    Node.ofType "ObjectExpression" [("properties", .arr [
      .obj [("key", Node.identifier (.str "text")), ("value", Node.literal (.str "ok"))]])]]

theorem superclass_framed_dataCall :
    isDottedName (Text.trimmed " app.Widget ") = true ∧
      ∃ plain extended,
        (ofParameters (sampleOptions.extending false) dataCall).outcome = .ok plain ∧
        (ofParameters (sampleOptions.extending true) dataCall).outcome = .ok extended ∧
        SameButForSuperclass "window" ["app", "Widget"] true extended plain := by
  have isDotted : isDottedName (Text.trimmed " app.Widget ") = true := by decide
  have segmentsAre : Text.pieces '.' (Text.trimmed " app.Widget ") = ["app", "Widget"] := rfl
  have converts : ∃ plain,
      (ofParameters (sampleOptions.extending false) dataCall).outcome = .ok plain := ⟨_, rfl⟩
  rcases converts with ⟨plain, converts⟩
  rcases ((superclass_framed sampleOptions dataCall).2.2 " app.Widget " rfl isDotted).2 plain
      converts with ⟨arguments, extended, parametersAre, convertsExtended, same⟩
  have argumentsAre : arguments.makesUpConstructor sampleOptions = true := by
    rcases arguments with ⟨name, _ | statics, members⟩
    · simp only [dataCall, Option.toList_none, List.cons_append, List.nil_append, Json.arr.injEq,
        List.cons.injEq, and_true] at parametersAre
      rw [← parametersAre.2]
      rfl
    · simp [dataCall] at parametersAre
  rw [argumentsAre, segmentsAre] at same
  exact ⟨isDotted, plain, extended, converts, convertsExtended, same⟩

end Conversion

end ClassLift

import ClassLift.Proofs.Conversion.Stages

/-!
# The layout of a converted program

The program of a conversion is laid out from three things: the name of the global
object, the segments of the class and the segments of its superclass, if it has
one. `Conversion.program_layout` says which statements it has and in which order.
The constants for the two roots are declared at different moments, but every
expression that reaches the class or its superclass has the form that
`Scope.access` gives it.
-/

namespace ClassLift

/-- The segments of the superclass, if the options ask for one and name it. -/
def Options.superclassSegments (options : Options) : Option (List String) :=
  match options.extended, options.extendedNamespace with
  | true, some dotted =>
      let name := Text.trimmed dotted
      if name = "" then none else some (Text.pieces '.' name)
  | _, _ => none

namespace Layout

/-- The statement `const name = window.name;`. -/
def constant (rootObject name : String) : Json :=
  Node.constDeclaration (.str name) (Node.dot (Node.identifier (.str rootObject)) (.str name))

/-- A guard `container = container || {};` for each proper start of the segments. -/
def guards (rootObject : String) (segments : List String) : List Json :=
  (List.range (segments.length - 1)).map fun index =>
    let container := Scope.chain (Node.identifier (.str rootObject)) (segments.take (index + 1))
    Node.assignmentStatement container (Node.logicalOr container Node.emptyObject)

/-- The constant for the root of the class, which a class without containers does not need. -/
def rootConstants (rootObject : String) : List String → List Json
  | root :: _ :: _ => [constant rootObject root]
  | _ => []

/-- The constant for the root of the superclass, unless the class has declared that root. -/
def superclassConstants (rootObject : String) (segments : List String) :
    Option (List String) → List Json
  | some (root :: _ :: _) =>
      if 2 ≤ segments.length ∧ segments.head? = some root then [] else [constant rootObject root]
  | _ => []

/-- What stands after `extends`; null stands for nothing. -/
def superclass (rootObject : String) (segments? : Option (List String)) : Json :=
  (segments?.map (Scope.access rootObject)).getD .null

/-- The statements before the class. -/
def opening (options : Options) (segments : List String) : List Json :=
  guards options.rootObject segments ++ rootConstants options.rootObject segments ++
    superclassConstants options.rootObject segments options.superclassSegments

/-- The statement that assigns a class with the given members. -/
def classStatement (options : Options) (path : NamespacePath) (members : List Json) : Json :=
  Node.assignmentStatement (Scope.access options.rootObject path.segments)
    (Node.classWith (.str (Text.capitalised path.className))
      (superclass options.rootObject options.superclassSegments) members)

/-- The assignments of static data to the class. -/
def staticAssignments (options : Options) (segments : List String) (data : List MemberEntry) :
    List Json :=
  data.map fun entry =>
    Node.assignmentStatement
      (Node.member (Scope.access options.rootObject segments) entry.key (.bool entry.isBracketed))
      entry.value

theorem guards_eq (rootObject : String) (path : NamespacePath) :
    Scope.guards ⟨rootObject, []⟩ path = guards rootObject path.segments :=
  Scope.guards_eq_map ⟨rootObject, []⟩ path

theorem rootConstants_eq (rootObject : String) (path : NamespacePath) :
    ((Scope.newAlias? ⟨rootObject, []⟩ path).map (Scope.aliasStatement ⟨rootObject, []⟩)).toList =
      rootConstants rootObject path.segments := by
  rcases path.segments_cases with
    ⟨notNested, segmentsAre, _⟩ | ⟨isNested, second, rest, segmentsAre⟩
  · simp [Scope.newAlias?, notNested, segmentsAre, rootConstants]
  · simp [Scope.newAlias?, isNested, segmentsAre, rootConstants, constant, Scope.aliasStatement,
      Scope.global]

/-- After the class has declared its root, it is the only one that is declared. -/
theorem mem_aliases_iff (rootObject name : String) (path : NamespacePath) :
    name ∈ (Scope.withAlias ⟨rootObject, []⟩ path).aliases ↔
      2 ≤ path.segments.length ∧ path.segments.head? = some name := by
  rw [← NamespacePath.isNested_iff, NamespacePath.head?_segments, Option.some.injEq]
  by_cases isNested : path.isNested = true
  · simp [Scope.withAlias, Scope.newAlias?, isNested, eq_comm]
  · simp [Scope.withAlias, Scope.newAlias?, isNested]

theorem superclassConstants_eq (rootObject : String) (path superPath : NamespacePath) :
    ((Scope.newAlias? (Scope.withAlias ⟨rootObject, []⟩ path) superPath).map
        (Scope.aliasStatement (Scope.withAlias ⟨rootObject, []⟩ path))).toList =
      superclassConstants rootObject path.segments (some superPath.segments) := by
  rcases superPath.segments_cases with
    ⟨notNested, segmentsAre, _⟩ | ⟨isNested, second, rest, segmentsAre⟩
  · simp [Scope.newAlias?, notNested, segmentsAre, superclassConstants]
  · have declaredIff := mem_aliases_iff rootObject superPath.root path
    rw [segmentsAre, superclassConstants, Scope.newAlias?]
    by_cases declared : 2 ≤ path.segments.length ∧ path.segments.head? = some superPath.root
    · have isMember := declaredIff.mpr declared
      simp [isMember, declared]
    · have notMember := mt declaredIff.mp declared
      rw [if_neg declared, if_pos ⟨isNested, notMember⟩]
      rfl

end Layout

namespace Conversion

/-- The path of the superclass has the segments that the options give it. -/
theorem superclassSegments_of_extendedPath {options : Options} {path? : Option NamespacePath}
    (extended : options.extended = true) (read : options.extendedPath = .ok path?) :
    options.superclassSegments = path?.map (·.segments) ∧ ∀ path ∈ path?, "" ∉ path.segments := by
  unfold Options.extendedPath at read
  unfold Options.superclassSegments
  rw [extended]
  cases namespaceIs : options.extendedNamespace with
  | none =>
      simp only [namespaceIs, Except.ok.injEq] at read
      simp [← read]
  | some dotted =>
      simp only [namespaceIs] at read
      by_cases blank : Text.trimmed dotted = ""
      · simp only [blank, if_true, Except.ok.injEq] at read
        simp [← read, blank]
      · simp only [blank, if_false] at read ⊢
        cases parses : NamespacePath.parse (.str (Text.trimmed dotted)) with
        | error failure => simp [parses, Functor.map, Except.map] at read
        | ok path =>
            simp only [parses, Functor.map, Except.map, Except.ok.injEq] at read
            rcases NamespacePath.segments_of_parse parses with ⟨segmentsAre, noEmpty⟩
            rw [← read, Option.map_some, segmentsAre]
            refine ⟨rfl, ?_⟩
            intro other otherIs
            rw [Option.mem_def, Option.some.injEq] at otherIs
            rw [← otherIs]
            exact noEmpty

section Extension

variable {options : Options} {path : NamespacePath} {shell : ClassShell}
  {extension : ClassShell.Extension}

theorem extendShell_eq_ok_of_extended (extended : options.extended = true)
    (unextended : shell.superClass = none)
    (extends_ : (extendShell options shell
      (Scope.withAlias ⟨options.rootObject, []⟩ path)).outcome = .ok extension) :
    ∃ superPath? : Option NamespacePath, options.extendedPath = .ok superPath? ∧
      extension.shell = { shell with
        superClass := superPath?.map fun superPath =>
          Scope.access options.rootObject superPath.segments } ∧
      extension.statements = Layout.superclassConstants options.rootObject path.segments
        (superPath?.map (·.segments)) ∧
      extension.scope.rootObject = options.rootObject ∧
      (path.isNested = true → path.root ∈ extension.scope.aliases) := by
  simp only [extendShell, extended, if_true, Traced.outcome_bind, Traced.outcome_liftM,
    bind_eq_ok_iff] at extends_
  rcases extends_ with ⟨superPath?, superPathRead, extends_⟩
  refine ⟨superPath?, superPathRead, ?_⟩
  cases superPath? with
  | none =>
      simp only [ClassShell.extend, Traced.outcome_bind, Traced.outcome_record,
        Traced.outcome_pure, bind_eq_ok_iff, Except.ok.injEq] at extends_
      rcases extends_ with ⟨_, _, rfl⟩
      refine ⟨?_, rfl, rfl, ?_⟩
      · rw [Option.map_none, ← unextended]
      · intro isNested
        exact Scope.root_mem_withAlias _ isNested
  | some superPath =>
      simp only [ClassShell.extend, Traced.outcome_bind, Scope.declareAlias_outcome,
        Traced.outcome_record, Traced.outcome_pure, bind_eq_ok_iff, Except.ok.injEq] at extends_
      rcases extends_ with ⟨_, rfl, _, _, rfl⟩
      refine ⟨?_, ?_, rfl, ?_⟩
      · have reached : Scope.accessor _ superPath = _ :=
          Scope.accessor_of_declared (Scope.root_mem_withAlias
            (Scope.withAlias ⟨options.rootObject, []⟩ path))
        simp only [reached, Option.map_some]
        rfl
      · exact Layout.superclassConstants_eq options.rootObject path superPath
      · intro isNested
        exact Scope.mem_withAlias_of_mem (Scope.root_mem_withAlias _ isNested) superPath

/-- What extending the shell of a class leads to, by the segments of the superclass. -/
theorem extendShell_eq_ok (unextended : shell.superClass = none)
    (extends_ : (extendShell options shell
      (Scope.withAlias ⟨options.rootObject, []⟩ path)).outcome = .ok extension) :
    extension.shell = { shell with
        superClass := options.superclassSegments.map (Scope.access options.rootObject) } ∧
      extension.statements = Layout.superclassConstants options.rootObject path.segments
        options.superclassSegments ∧
      extension.scope.rootObject = options.rootObject ∧
      (path.isNested = true → path.root ∈ extension.scope.aliases) ∧
      ∀ segments ∈ options.superclassSegments, segments ≠ [] ∧ "" ∉ segments := by
  by_cases extended : options.extended = true
  · rcases extendShell_eq_ok_of_extended extended unextended extends_ with
      ⟨superPath?, superPathRead, shellIs, statementsAre, rootIs, declared⟩
    rcases superclassSegments_of_extendedPath extended superPathRead with ⟨segmentsAre, noEmpty⟩
    rw [segmentsAre]
    refine ⟨?_, statementsAre, rootIs, declared, ?_⟩
    · rw [shellIs, Option.map_map]
      rfl
    · intro segments segmentsMem
      rcases Option.map_eq_some_iff.mp segmentsMem with ⟨superPath, superPathIs, rfl⟩
      refine ⟨?_, noEmpty superPath superPathIs⟩
      simp [NamespacePath.segments]
  · have notExtended : options.extended = false := by simpa using extended
    have noSuperclass : options.superclassSegments = none := by
      simp [Options.superclassSegments, notExtended]
    simp only [extendShell, notExtended, Bool.false_eq_true, if_false, Traced.outcome_pure,
      Except.ok.injEq] at extends_
    subst extends_
    rw [noSuperclass]
    refine ⟨?_, rfl, rfl, ?_, by simp⟩
    · rw [Option.map_none, ← unextended]
    · intro isNested
      exact Scope.root_mem_withAlias _ isNested

end Extension

section Statements

variable {options : Options} {parameters : Json} (stages : Stages options parameters)

theorem Stages.opening_eq : stages.opening = Layout.opening options stages.path.segments := by
  have extension := extendShell_eq_ok rfl stages.shellExtended
  rw [Stages.opening, Layout.guards_eq, Layout.rootConstants_eq, extension.2.1]
  rfl

theorem Stages.shell_eq :
    stages.extension.shell =
      ⟨Scope.access options.rootObject stages.path.segments,
        Text.capitalised stages.path.className,
        options.superclassSegments.map (Scope.access options.rootObject)⟩ := by
  have extension := extendShell_eq_ok rfl stages.shellExtended
  have reached : Scope.accessor _ stages.path = _ :=
    Scope.accessor_of_declared
      (Scope.root_mem_withAlias ⟨options.rootObject, []⟩)
  rw [extension.1, ClassShell.ofPath, reached]
  rfl

theorem Stages.trailing_eq :
    stages.trailing = Layout.staticAssignments options stages.path.segments
      (stages.arguments.staticEntries.filter (!·.isMethod)) := by
  have extension := extendShell_eq_ok rfl stages.shellExtended
  have assigned := MemberEntry.mapM_toAssignment_eq_ok stages.staticsAssigned
  rw [Scope.accessor_of_declared extension.2.2.2.1, extension.2.2.1, stages.statics_entries]
    at assigned
  exact assigned

theorem Stages.classStatement_eq (body : List Json) :
    stages.extension.shell.statement body = Layout.classStatement options stages.path body := by
  rw [stages.shell_eq]
  rfl

end Statements

/--
How the program of a conversion is laid out, given the arguments of the call, the
text of the namespace and the members of the class.
-/
structure HasLayout (options : Options) (arguments : Arguments) (text : String)
    (classBody : List Json) (conversion : Conversion) : Prop where
  nameIsLiteral : arguments.name.field? "type" = some (.str "Literal")
  nameIsText : arguments.name.field? "value" = some (.str text)
  segmentsAre : conversion.path.segments = Text.pieces '.' text
  noEmptySegment : "" ∉ conversion.path.segments
  superclassIsPath : ∀ segments ∈ options.superclassSegments, segments ≠ [] ∧ "" ∉ segments
  programIs : conversion.program = Node.program (.arr (
    Layout.guards options.rootObject conversion.path.segments ++
    Layout.rootConstants options.rootObject conversion.path.segments ++
    Layout.superclassConstants options.rootObject conversion.path.segments
      options.superclassSegments ++
    [Layout.classStatement options conversion.path classBody] ++
    Layout.staticAssignments options conversion.path.segments
      (arguments.staticEntries.filter (!·.isMethod))))

/--
The program of every conversion is laid out in the same order: guards, the
constant for the root of the class, the one for the root of the superclass, the
class and the assignments of static data.
-/
theorem program_layout {options : Options} {parameters : Json} {conversion : Conversion}
    (converts : (ofParameters options parameters).outcome = .ok conversion) :
    ∃ (arguments : Arguments) (text : String) (classBody : List Json),
      parameters = .arr (arguments.name :: arguments.statics.toList ++ [arguments.members]) ∧
        HasLayout options arguments text classBody conversion := by
  rcases exists_stages converts with ⟨stages, _, _, rfl⟩
  rcases stages.parameters_eq with ⟨parametersAre, nameIsLiteral, nameIsText⟩
  rcases NamespacePath.segments_of_parse stages.pathRead with ⟨segmentsAre, noEmptySegment⟩
  have extension := extendShell_eq_ok rfl stages.shellExtended
  refine ⟨stages.arguments, stages.text, stages.addition.body, parametersAre, ?_⟩
  refine ⟨nameIsLiteral, nameIsText, segmentsAre, noEmptySegment, extension.2.2.2.2, ?_⟩
  rw [Conversion.program, Stages.conversion, stages.opening_eq, stages.classStatement_eq,
    stages.trailing_eq]
  rfl

/-- A call with two tables that have members of most kinds. -/
def sampleCall : Json :=
  let function :=
    Node.functionExpression .null .null .null (.bool false) (.bool false) (.bool false)
  let name (text : String) : Json := Node.identifier (.str text)
  let property (key value : Json) (others : List (String × Json)) : Json :=
    Node.ofType "Property" (("key", key) :: ("value", value) :: others)
  let table (properties : List Json) : Json :=
    Node.ofType "ObjectExpression" [("properties", .arr properties)]
  .arr [Node.literal (.str "app.ui.button"),
    table [property (name "create") function [],
      Node.ofType "SpreadElement" [("argument", name "shared")],
      property (Node.literal (.str "max-size")) (Node.literal (.int 3)) []],
    table [property (name "label") (Node.literal (.str "ok")) [],
      property (name "init") function [],
      property (name "width") function [("kind", .str "get")],
      property (name "key") (name "value") [("computed", .bool true)]]]

/-- Options that name a superclass under the root of the sample. -/
def sampleOptions : Options :=
  { Options.default with extended := true, extendedNamespace := some " app.Widget " }

theorem program_layout_sampleCall :
    ∃ conversion, (ofParameters sampleOptions sampleCall).outcome = .ok conversion ∧
      conversion.statements.length = 5 ∧
      ∃ (arguments : Arguments) (text : String) (classBody : List Json),
        sampleCall = .arr (arguments.name :: arguments.statics.toList ++ [arguments.members]) ∧
          HasLayout sampleOptions arguments text classBody conversion :=
  ⟨_, rfl, rfl, program_layout rfl⟩

end Conversion

end ClassLift

import ClassLift.Proofs.Conversion.Paths
import ClassLift.Proofs.Namespace.Discipline

/-!
# What the names in a converted program are bound to

The program of a conversion is run as a script. A constant is in scope in all of
it, also in its own initialiser, but it has a value only after its declaration.
The own name of a class is in scope after its `extends`, and has no value there.

The names of a program come from three sources that do not know of each other:
the options name the global object, the roots of two namespaces become constants,
and the last segment of the class becomes its own name.
`Conversion.references_resolve` says when they get in each other's way: exactly if
a constant takes the name of the global object, or the class the name that its
superclass is reached from. Otherwise every generated access starts from what it
is meant to start from.
-/

namespace ClassLift

/-- What a name is bound to. A name that the program does not bind is a global one. -/
inductive Binding where
  | global (name : String)
  | constant (name : String)
  | ownName (className : String)
deriving DecidableEq

namespace Binding

/-- What a name is bound to outside of the class of a program. -/
def outside (statements : List Json) (name : String) : Binding :=
  if name ∈ Scope.declaredNames statements then .constant name else .global name

/-- Whether a binding has a value once the given statements have run. -/
def hasValue (earlier : List Json) : Binding → Bool
  | .global _ => true
  | .constant name => decide (name ∈ Scope.declaredNames earlier)
  | .ownName _ => false

end Binding

/-- Where an expression stands: outside of the class, or after its `extends`. -/
inductive Place where
  | outside
  | heritage (className : String)

/-- What a name is bound to in a place of a program. -/
def Place.binding (statements : List Json) (name : String) : Place → Binding
  | .outside => .outside statements name
  | .heritage className =>
      if name = className then .ownName className else .outside statements name

/--
An access in a program: the statements that run before it, where it stands and
what it is meant to start from.
-/
structure Reference where
  earlier : List Json
  place : Place
  access : Json
  meant : Binding

/-- Whether an access starts from what it is meant to start from, and that has a value. -/
def Reference.Resolves (statements : List Json) (reference : Reference) : Prop :=
  ∃ name, Node.baseName? reference.access = some name ∧
    reference.place.binding statements name = reference.meant ∧
    reference.meant.hasValue reference.earlier = true

/-- The own name of the class that a statement assigns. -/
def Node.ownName? (statement : Json) : Option String :=
  ((assignedValue? statement).bind (·.field? "id")).bind baseName?

namespace Layout

/-- The root of a path that has containers; there is a constant for it. -/
def constantRoot? : List String → Option String
  | root :: _ :: _ => some root
  | _ => none

/-- The name that an access to a path starts from. -/
def base (rootObject : String) (segments : List String) : String :=
  (constantRoot? segments).getD rootObject

/-- What an access to a path is meant to start from. -/
def meant (rootObject : String) (segments : List String) : Binding :=
  match constantRoot? segments with
  | some root => .constant root
  | none => .global rootObject

end Layout

namespace Options

/-- Whether a constant takes the name of the global object. -/
def HidesRootObject (options : Options) (path : NamespacePath) : Prop :=
  Layout.constantRoot? path.segments = some options.rootObject ∨
    options.superclassSegments.bind Layout.constantRoot? = some options.rootObject

/-- Whether the class takes the name that its superclass is reached from. -/
def HidesSuperclass (options : Options) (path : NamespacePath) : Prop :=
  options.superclassSegments.map (Layout.base options.rootObject) =
    some (Text.capitalised path.className)

instance (options : Options) (path : NamespacePath) : Decidable (options.HidesRootObject path) :=
  inferInstanceAs (Decidable (_ ∨ _))

instance (options : Options) (path : NamespacePath) : Decidable (options.HidesSuperclass path) :=
  inferInstanceAs (Decidable (_ = _))

end Options

namespace Conversion

/-- Whether what the class extends is reached from a name like its own. -/
def ExtendsOwnName (conversion : Conversion) : Prop :=
  ∃ earlier statement later superclass className,
    conversion.statements = earlier ++ statement :: later ∧
      earlier.length = conversion.classIndex ∧
      Node.superclass? statement = some superclass ∧
      Node.ownName? statement = some className ∧
      Node.baseName? superclass = some className

/--
The generated accesses of a conversion. A guard reads and writes its container
from the global object, and so does the initialiser of a constant read its
member. The class, its static data and its superclass are reached through the
constant for their root, if they have containers.
-/
inductive Refers (options : Options) (conversion : Conversion) : Reference → Prop where
  | guard {earlier later : List Json} {container : Json}
      (statementsAre : conversion.statements = earlier ++ Scope.guard container :: later)
      (isBefore : earlier.length < conversion.classIndex) :
      Refers options conversion ⟨earlier, .outside, container, .global options.rootObject⟩
  | initialiser {earlier later : List Json} {name initialiser : Json}
      (statementsAre : conversion.statements =
        earlier ++ Node.constDeclaration name initialiser :: later) :
      Refers options conversion ⟨earlier, .outside, initialiser, .global options.rootObject⟩
  | target {earlier later : List Json} {statement assigned : Json}
      (statementsAre : conversion.statements = earlier ++ statement :: later)
      (notBefore : conversion.classIndex ≤ earlier.length)
      (isAssigned : Node.assigned? statement = some assigned) :
      Refers options conversion
        ⟨earlier, .outside, assigned, Layout.meant options.rootObject conversion.path.segments⟩
  | superclass {earlier later : List Json} {statement superclass : Json} {className : String}
      {segments : List String}
      (statementsAre : conversion.statements = earlier ++ statement :: later)
      (isClass : earlier.length = conversion.classIndex)
      (isSuperclass : Node.superclass? statement = some superclass)
      (ownNameIs : Node.ownName? statement = some className)
      (segmentsAre : options.superclassSegments = some segments) :
      Refers options conversion
        ⟨earlier, .heritage className, superclass, Layout.meant options.rootObject segments⟩

end Conversion

/-! ## Names of a layout -/

namespace Layout

theorem baseName?_access (rootObject : String) (segments : List String) :
    Node.baseName? (Scope.access rootObject segments) = some (base rootObject segments) := by
  rcases segments with _ | ⟨only, _ | ⟨second, rest⟩⟩
  · simp [Scope.access, base, constantRoot?]
  · simp [Scope.access, base, constantRoot?]
  · simp [Scope.access, base, constantRoot?]

theorem meant_cases (rootObject : String) (segments : List String) :
    (base rootObject segments = rootObject ∧ meant rootObject segments = .global rootObject) ∨
      ∃ root, constantRoot? segments = some root ∧ base rootObject segments = root ∧
        meant rootObject segments = .constant root := by
  unfold base meant
  cases constantRoot? segments with
  | none => exact .inl ⟨rfl, rfl⟩
  | some root => exact .inr ⟨root, rfl, rfl, rfl⟩

theorem mem_declaredNames_rootConstants {rootObject name : String} {segments : List String} :
    name ∈ Scope.declaredNames (rootConstants rootObject segments) ↔
      constantRoot? segments = some name := by
  rcases segments with _ | ⟨only, _ | ⟨second, rest⟩⟩
  · simp [rootConstants, constantRoot?, Scope.declaredNames]
  · simp [rootConstants, constantRoot?, Scope.declaredNames]
  · simp [rootConstants, constantRoot?, Scope.declaredNames, eq_comm]

theorem mem_declaredNames_superclassConstants {rootObject name : String}
    {segments : List String} {superSegments? : Option (List String)}
    (notShared : constantRoot? segments ≠ some name) :
    name ∈ Scope.declaredNames (superclassConstants rootObject segments superSegments?) ↔
      superSegments?.bind constantRoot? = some name := by
  rcases superSegments? with _ | _ | ⟨root, _ | ⟨second, rest⟩⟩
  · simp [superclassConstants, Scope.declaredNames]
  · simp [superclassConstants, Scope.declaredNames, constantRoot?]
  · simp [superclassConstants, Scope.declaredNames, constantRoot?]
  · rw [superclassConstants, Option.bind_some, constantRoot?, Option.some.injEq]
    -- There is no second constant for a root that the class has declared.
    by_cases isShared : 2 ≤ segments.length ∧ segments.head? = some root
    · have rootIs : constantRoot? segments = some root := by
        rcases segments with _ | ⟨first, _ | ⟨next, others⟩⟩
        · simp at isShared
        · simp at isShared
        · exact isShared.2
      rw [rootIs, ne_eq, Option.some.injEq] at notShared
      simp [isShared, Scope.declaredNames, notShared]
    · simp [isShared, Scope.declaredNames, eq_comm]

theorem mem_declaredNames_opening {options : Options} {name : String} {segments : List String} :
    name ∈ Scope.declaredNames (opening options segments) ↔
      constantRoot? segments = some name ∨
        options.superclassSegments.bind constantRoot? = some name := by
  have noNames : Scope.declaredNames (guards options.rootObject segments) = [] := by
    apply Scope.declaredNames_of_assignments
    intro statement isGuard
    rcases List.mem_map.mp isGuard with ⟨index, _, rfl⟩
    exact ⟨_, _, rfl⟩
  rw [opening, Scope.declaredNames_append, Scope.declaredNames_append, noNames, List.nil_append,
    List.mem_append, mem_declaredNames_rootConstants]
  by_cases isRoot : constantRoot? segments = some name
  · simp [isRoot]
  · rw [mem_declaredNames_superclassConstants isRoot]

theorem superclass?_classStatement {options : Options} {segments : List String}
    (segmentsAre : options.superclassSegments = some segments) (path : NamespacePath)
    (members : List Json) :
    Node.superclass? (classStatement options path members) =
      some (Scope.access options.rootObject segments) := by
  have isGiven : Scope.access options.rootObject segments ≠ .null := by
    intro isNull
    have baseIs := baseName?_access options.rootObject segments
    rw [isNull, Node.baseName?] at baseIs
    simp [Node.hasType, Json.field?] at baseIs
  have superclassIs : Node.superclass? (classStatement options path members) =
      (some (superclass options.rootObject options.superclassSegments)).filter (· ≠ .null) := rfl
  simp [superclassIs, superclass, segmentsAre, isGiven]

theorem ownName?_classStatement (options : Options) (path : NamespacePath) (members : List Json) :
    Node.ownName? (classStatement options path members) =
      some (Text.capitalised path.className) :=
  Node.baseName?_identifier _

end Layout

/-! ## Accesses of a conversion -/

/-- What is known of a generated access, whatever the names are. -/
structure Reference.IsIntended (options : Options) (conversion : Conversion)
    (reference : Reference) (name : String) : Prop where
  baseIs : Node.baseName? reference.access = some name
  meantIs : (reference.meant = .global name ∧ name = options.rootObject) ∨
    (reference.meant = .constant name ∧ name ∈ Scope.declaredNames reference.earlier)
  earlierIs : reference.earlier <+: conversion.statements
  placeIs : ∀ className, reference.place = .heritage className →
    className = Text.capitalised conversion.path.className ∧
      options.superclassSegments.map (Layout.base options.rootObject) = some name

theorem Layout.meant_base (rootObject : String) {segments : List String} {earlier : List Json}
    (declared : ∀ root ∈ constantRoot? segments, root ∈ Scope.declaredNames earlier) :
    (meant rootObject segments = .global (base rootObject segments) ∧
        base rootObject segments = rootObject) ∨
      (meant rootObject segments = .constant (base rootObject segments) ∧
        base rootObject segments ∈ Scope.declaredNames earlier) := by
  rcases meant_cases rootObject segments with
    ⟨baseIs, meantIs⟩ | ⟨root, rootIs, baseIs, meantIs⟩
  · rw [baseIs, meantIs]
    exact .inl ⟨rfl, rfl⟩
  · rw [baseIs, meantIs]
    exact .inr ⟨rfl, declared root rootIs⟩

namespace Conversion

section

variable {options : Options} {parameters : Json} {conversion : Conversion}
  (converts : (ofParameters options parameters).outcome = .ok conversion)
include converts

theorem mem_declaredNames_iff {name : String} :
    name ∈ Scope.declaredNames conversion.statements ↔
      Layout.constantRoot? conversion.path.segments = some name ∨
        options.superclassSegments.bind Layout.constantRoot? = some name := by
  rcases exists_statements_eq converts with ⟨members, data, layoutIs⟩
  -- From the class on, statements only assign.
  have noNames : Scope.declaredNames (Layout.classStatement options conversion.path members ::
      Layout.staticAssignments options conversion.path.segments data) = [] := by
    apply Scope.declaredNames_of_assignments
    intro statement isLater
    rcases List.mem_cons.mp isLater with rfl | isStatic
    · exact ⟨_, _, rfl⟩
    · rcases List.mem_map.mp isStatic with ⟨entry, _, rfl⟩
      exact ⟨_, _, rfl⟩
  rw [layoutIs, Scope.declaredNames_append, noNames, List.append_nil,
    Layout.mem_declaredNames_opening]

theorem exists_container_of_guard {earlier later : List Json} {container : Json}
    (statementsAre : conversion.statements = earlier ++ Scope.guard container :: later)
    (isBefore : earlier.length < conversion.classIndex) :
    ∃ names, container = Scope.chain (Node.identifier (.str options.rootObject)) names := by
  rcases statement_cases converts statementsAre with ⟨_, isOpening⟩ | ⟨isClass, _⟩ | ⟨isAfter, _⟩
  · rcases Layout.mem_opening isOpening with ⟨names, same⟩ | ⟨name, same⟩
    · exact ⟨names, Option.some.inj (congrArg Node.assigned? same)⟩
    · exact absurd same.symm (Node.constDeclaration_ne_assignmentStatement _ _ _ _)
  · omega
  · omega

theorem exists_name_of_constDeclaration {earlier later : List Json} {name initialiser : Json}
    (statementsAre : conversion.statements =
      earlier ++ Node.constDeclaration name initialiser :: later) :
    ∃ text, name = .str text ∧
      initialiser = Node.dot (Node.identifier (.str options.rootObject)) (.str text) := by
  have isDeclared : Node.constDeclaration name initialiser ∈ conversion.statements := by
    rw [statementsAre]
    simp
  rcases isGenerated_of_mem converts isDeclared with ⟨text, same⟩ | ⟨left, right, same⟩
  · have sameParts : name = .str text ∧
        initialiser = Node.dot (Node.identifier (.str options.rootObject)) (.str text) := by
      simpa [Layout.constant, Node.constDeclaration, Node.ofType, Node.identifier] using same
    exact ⟨text, sameParts⟩
  · exact absurd same (Node.constDeclaration_ne_assignmentStatement _ _ _ _)

/-- From the class on, what is assigned is the class or one of its members. -/
theorem baseName?_of_assigned {earlier later : List Json} {statement assigned : Json}
    (statementsAre : conversion.statements = earlier ++ statement :: later)
    (notBefore : conversion.classIndex ≤ earlier.length)
    (isAssigned : Node.assigned? statement = some assigned) :
    Node.baseName? assigned =
        some (Layout.base options.rootObject conversion.path.segments) ∧
      Layout.opening options conversion.path.segments ⊆ earlier := by
  rcases statement_cases converts statementsAre with
    ⟨isBefore, _⟩ | ⟨_, rfl, members, rfl⟩ | ⟨_, openingStays, key, computed, value, rfl⟩
  · omega
  · obtain rfl := Option.some.inj isAssigned
    exact ⟨Layout.baseName?_access _ _, List.Subset.refl _⟩
  · obtain rfl := Option.some.inj isAssigned
    rw [Node.baseName?_member]
    exact ⟨Layout.baseName?_access _ _, openingStays⟩

theorem eq_classStatement_of_length {earlier later : List Json} {statement : Json}
    (statementsAre : conversion.statements = earlier ++ statement :: later)
    (isClass : earlier.length = conversion.classIndex) :
    earlier = Layout.opening options conversion.path.segments ∧
      ∃ members, statement = Layout.classStatement options conversion.path members := by
  rcases statement_cases converts statementsAre with ⟨isBefore, _⟩ | ⟨_, isThere⟩ | ⟨isAfter, _⟩
  · omega
  · exact isThere
  · omega

/-- Every generated access has the base it is meant to have. -/
theorem Refers.isIntended {reference : Reference} (refers : Refers options conversion reference) :
    ∃ name, reference.IsIntended options conversion name := by
  have isOutside : ∀ {name className : String}, Place.outside = .heritage className →
      className = Text.capitalised conversion.path.className ∧
        options.superclassSegments.map (Layout.base options.rootObject) = some name := by
    intro name className isHeritage
    simp at isHeritage
  cases refers with
  | guard statementsAre isBefore =>
      rcases exists_container_of_guard converts statementsAre isBefore with ⟨names, rfl⟩
      exact ⟨options.rootObject, by simp, .inl ⟨rfl, rfl⟩, ⟨_, statementsAre.symm⟩,
        fun _ => isOutside⟩
  | initialiser statementsAre =>
      rcases exists_name_of_constDeclaration converts statementsAre with ⟨text, _, rfl⟩
      exact ⟨options.rootObject, by simp [Node.dot], .inl ⟨rfl, rfl⟩, ⟨_, statementsAre.symm⟩,
        fun _ => isOutside⟩
  | target statementsAre notBefore isAssigned =>
      rcases baseName?_of_assigned converts statementsAre notBefore isAssigned with
        ⟨baseIs, openingStays⟩
      refine ⟨_, baseIs, Layout.meant_base _ ?_, ⟨_, statementsAre.symm⟩,
        fun _ => isOutside⟩
      intro root rootIs
      apply (List.filterMap_subset _ openingStays)
      exact Layout.mem_declaredNames_opening.mpr (.inl rootIs)
  | superclass statementsAre isClass isSuperclass ownNameIs segmentsAre =>
      rcases eq_classStatement_of_length converts statementsAre isClass with
        ⟨rfl, members, rfl⟩
      rw [Layout.superclass?_classStatement segmentsAre] at isSuperclass
      obtain rfl := Option.some.inj isSuperclass
      refine ⟨_, Layout.baseName?_access _ _, Layout.meant_base _ ?_, ⟨_, statementsAre.symm⟩, ?_⟩
      · intro root rootIs
        apply Layout.mem_declaredNames_opening.mpr
        rw [segmentsAre]
        exact .inr rootIs
      · intro className placeIs
        rw [Layout.ownName?_classStatement] at ownNameIs
        rw [← Place.heritage.inj placeIs, ← Option.some.inj ownNameIs, segmentsAre]
        exact ⟨rfl, rfl⟩

theorem resolves_of_not_hides (showsRoot : ¬options.HidesRootObject conversion.path)
    (showsSuperclass : ¬options.HidesSuperclass conversion.path) {reference : Reference}
    (refers : Refers options conversion reference) :
    reference.Resolves conversion.statements := by
  rcases refers.isIntended converts with ⟨name, baseIs, meantIs, earlierIs, placeIs⟩
  have outsideIs : Binding.outside conversion.statements name = reference.meant ∧
      reference.meant.hasValue reference.earlier = true := by
    rcases meantIs with ⟨meantIs, rfl⟩ | ⟨meantIs, isDeclared⟩
    · have notDeclared := mt (mem_declaredNames_iff converts).mp showsRoot
      rw [meantIs]
      exact ⟨if_neg notDeclared, rfl⟩
    · have stays := earlierIs.subset
      have isDeclaredHere : name ∈ Scope.declaredNames conversion.statements :=
        List.filterMap_subset _ stays isDeclared
      rw [meantIs]
      exact ⟨if_pos isDeclaredHere, by simpa [Binding.hasValue] using isDeclared⟩
  refine ⟨name, baseIs, ?_, outsideIs.2⟩
  cases place : reference.place with
  | outside => exact outsideIs.1
  | heritage className =>
      rcases placeIs className place with ⟨rfl, superclassIs⟩
      have differs : name ≠ Text.capitalised conversion.path.className := by
        rintro rfl
        exact showsSuperclass superclassIs
      rw [Place.binding, if_neg differs]
      exact outsideIs.1

/-- The initialiser of a constant of that name is captured by the constant itself. -/
theorem not_hidesRootObject_of_resolve
    (resolve : ∀ reference, Refers options conversion reference →
      reference.Resolves conversion.statements) :
    ¬options.HidesRootObject conversion.path := by
  intro hides
  have isDeclared := (mem_declaredNames_iff converts).mpr hides
  rcases List.mem_filterMap.mp isDeclared with ⟨statement, statementMem, nameIs⟩
  rcases isGenerated_of_mem converts statementMem with ⟨name, rfl⟩ | ⟨left, right, rfl⟩
  · obtain rfl := Option.some.inj nameIs
    rcases List.append_of_mem statementMem with ⟨earlier, later, statementsAre⟩
    rcases resolve _ (.initialiser statementsAre) with ⟨base, baseIs, boundTo, _⟩
    obtain rfl : options.rootObject = base := by simpa [Node.dot] using baseIs
    have captured : Binding.outside conversion.statements options.rootObject =
        .constant options.rootObject := if_pos isDeclared
    have clash := captured.symm.trans boundTo
    simp at clash
  · simp at nameIs

theorem exists_classStatement {segments : List String}
    (segmentsAre : options.superclassSegments = some segments) :
    ∃ earlier statement later, conversion.statements = earlier ++ statement :: later ∧
      earlier.length = conversion.classIndex ∧
      Node.superclass? statement = some (Scope.access options.rootObject segments) ∧
      Node.ownName? statement = some (Text.capitalised conversion.path.className) := by
  rcases exists_statements_eq converts with ⟨members, data, layoutIs⟩
  exact ⟨_, _, _, layoutIs, (classIndex_eq layoutIs).symm,
    Layout.superclass?_classStatement segmentsAre _ _, Layout.ownName?_classStatement _ _ _⟩

theorem not_hidesSuperclass_of_resolve
    (resolve : ∀ reference, Refers options conversion reference →
      reference.Resolves conversion.statements) :
    ¬options.HidesSuperclass conversion.path := by
  intro hides
  rcases Option.map_eq_some_iff.mp hides with ⟨segments, segmentsAre, baseIs⟩
  rcases exists_classStatement converts segmentsAre with
    ⟨earlier, statement, later, statementsAre, isClass, isSuperclass, ownNameIs⟩
  rcases resolve _ (.superclass statementsAre isClass isSuperclass ownNameIs segmentsAre) with
    ⟨name, nameIs, boundTo, _⟩
  rw [Layout.baseName?_access, baseIs, Option.some.injEq] at nameIs
  -- The name is that of the class, which is never what an access is meant to start from.
  rw [Place.binding, if_pos nameIs.symm] at boundTo
  rcases Layout.meant_cases options.rootObject segments with
    ⟨_, meantIs⟩ | ⟨root, _, _, meantIs⟩
  · simp [meantIs] at boundTo
  · simp [meantIs] at boundTo

theorem extendsOwnName_iff :
    conversion.ExtendsOwnName ↔ options.HidesSuperclass conversion.path := by
  constructor
  · rintro ⟨earlier, statement, later, superclass, className, statementsAre, isClass,
      isSuperclass, ownNameIs, baseIs⟩
    rcases eq_classStatement_of_length converts statementsAre isClass with ⟨_, members, rfl⟩
    rcases Layout.exists_superclassSegments isSuperclass with ⟨segments, segmentsAre, rfl⟩
    rw [Layout.baseName?_access] at baseIs
    rw [Layout.ownName?_classStatement, ← baseIs] at ownNameIs
    rw [Options.HidesSuperclass, segmentsAre, Option.map_some, ownNameIs]
  · intro hides
    rcases Option.map_eq_some_iff.mp hides with ⟨segments, segmentsAre, baseIs⟩
    rcases exists_classStatement converts segmentsAre with
      ⟨earlier, statement, later, statementsAre, isClass, isSuperclass, ownNameIs⟩
    refine ⟨earlier, statement, later, _, _, statementsAre, isClass, isSuperclass, ownNameIs, ?_⟩
    rw [Layout.baseName?_access, baseIs]

end

/--
The names of a conversion get in each other's way in two cases, and only then: a
root that becomes a constant is named like the global object, or the class like
what its superclass is reached from. In all other cases every generated access
starts from the binding it is meant to start from, which has a value by then.
-/
theorem references_resolve {options : Options} {parameters : Json} {conversion : Conversion}
    (converts : (ofParameters options parameters).outcome = .ok conversion) :
    (options.rootObject ∈ Scope.declaredNames conversion.statements ↔
        options.HidesRootObject conversion.path) ∧
      (conversion.ExtendsOwnName ↔ options.HidesSuperclass conversion.path) ∧
      ((∀ reference, Refers options conversion reference →
          reference.Resolves conversion.statements) ↔
        ¬options.HidesRootObject conversion.path ∧ ¬options.HidesSuperclass conversion.path) := by
  refine ⟨mem_declaredNames_iff converts, extendsOwnName_iff converts, ?_⟩
  constructor
  · intro resolve
    exact ⟨not_hidesRootObject_of_resolve converts resolve,
      not_hidesSuperclass_of_resolve converts resolve⟩
  · rintro ⟨showsRoot, showsSuperclass⟩ reference refers
    exact resolves_of_not_hides converts showsRoot showsSuperclass refers

theorem references_resolve_sampleCall :
    ∃ conversion, (ofParameters sampleOptions sampleCall).outcome = .ok conversion ∧
      "window" ∉ Scope.declaredNames conversion.statements ∧ ¬conversion.ExtendsOwnName ∧
      ∀ reference, Refers sampleOptions conversion reference →
        reference.Resolves conversion.statements := by
  obtain ⟨conversion, converts, pathIs⟩ : ∃ conversion,
      (ofParameters sampleOptions sampleCall).outcome = .ok conversion ∧
        conversion.path = ⟨["app", "ui"], "button"⟩ := ⟨_, rfl, rfl⟩
  have showsRoot : ¬sampleOptions.HidesRootObject conversion.path := by
    rw [pathIs]
    decide
  have showsSuperclass : ¬sampleOptions.HidesSuperclass conversion.path := by
    rw [pathIs]
    decide
  rcases references_resolve converts with ⟨declares, extends_, resolve⟩
  exact ⟨conversion, converts, mt declares.mp showsRoot, mt extends_.mp showsSuperclass,
    resolve.mpr ⟨showsRoot, showsSuperclass⟩⟩

/-- A call for a class without members. -/
def bareCall (namespaceText : String) : Json :=
  .arr [Node.literal (.str namespaceText), Node.ofType "ObjectExpression" [("properties", .arr [])]]

/-- The constant `window` hides the global object, and the class `Widget` what it extends. -/
theorem references_resolve_captured :
    (∃ conversion, (ofParameters Options.default (bareCall "window.Button")).outcome =
        .ok conversion ∧
      "window" ∈ Scope.declaredNames conversion.statements ∧
      ¬∀ reference, Refers Options.default conversion reference →
        reference.Resolves conversion.statements) ∧
    ∃ options : Options, ∃ conversion,
      options.rootObject = "window" ∧ options.extendedNamespace = some "Widget.Base" ∧
      (ofParameters options (bareCall "app.widget")).outcome = .ok conversion ∧
      conversion.ExtendsOwnName ∧
      ¬∀ reference, Refers options conversion reference →
        reference.Resolves conversion.statements := by
  constructor
  · obtain ⟨conversion, converts, pathIs⟩ : ∃ conversion,
        (ofParameters Options.default (bareCall "window.Button")).outcome = .ok conversion ∧
          conversion.path = ⟨["window"], "Button"⟩ := ⟨_, rfl, rfl⟩
    have hides : Options.default.HidesRootObject conversion.path := by
      rw [pathIs]
      decide
    exact ⟨conversion, converts, (mem_declaredNames_iff converts).mpr hides, fun resolve =>
      not_hidesRootObject_of_resolve converts resolve hides⟩
  · let options : Options :=
      { Options.default with extended := true, extendedNamespace := some "Widget.Base" }
    obtain ⟨conversion, converts, pathIs⟩ : ∃ conversion,
        (ofParameters options (bareCall "app.widget")).outcome = .ok conversion ∧
          conversion.path = ⟨["app"], "widget"⟩ := ⟨_, rfl, rfl⟩
    have hides : options.HidesSuperclass conversion.path := by
      rw [pathIs]
      decide
    exact ⟨options, conversion, rfl, rfl, converts, (extendsOwnName_iff converts).mpr hides,
      fun resolve => not_hidesSuperclass_of_resolve converts resolve hides⟩

end Conversion

end ClassLift

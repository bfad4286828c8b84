import ClassLift.Proofs.Conversion.Layout
import ClassLift.Proofs.Namespace.Constant

/-!
# The paths in a converted program

The statements of a conversion reach generated paths: what a guard, the class
statement or an assignment of static data assigns, and what the class extends.
Each of them starts from the global object or from a constant that is declared
in an earlier statement of the same conversion.
-/

namespace ClassLift

namespace Node

/-- The right side of an assignment. -/
def assignedValue? (statement : Json) : Option Json :=
  (statement.field? "expression").bind (·.field? "right")

/-- Whether a statement assigns a class. -/
def assignsClass (statement : Json) : Bool :=
  (assignedValue? statement).any (hasType "ClassExpression")

/-- What the class that a statement assigns extends. -/
def superclass? (statement : Json) : Option Json :=
  ((assignedValue? statement).bind (·.field? "superClass")).filter (· ≠ .null)

end Node

namespace Conversion

/-- Where the class stands: static data can be a class too, but comes after it. -/
def classIndex (conversion : Conversion) : Nat :=
  conversion.statements.findIdx Node.assignsClass

/-- The generated paths that the statement at an index reaches. -/
def pathsAt (conversion : Conversion) (index : Nat) : List Json :=
  match conversion.statements[index]? with
  | none => []
  | some statement =>
      (Node.assigned? statement).toList ++
        if index = conversion.classIndex then (Node.superclass? statement).toList else []

end Conversion

namespace Layout

@[simp]
theorem isConstant_constant (rootObject name : String) :
    Node.isConstant (constant rootObject name) = true :=
  rfl

@[simp]
theorem constName_constant (rootObject name : String) :
    Node.constName (constant rootObject name) = .ok (.str name) :=
  rfl

@[simp]
theorem constantName?_constant (rootObject name : String) :
    Node.constantName? (constant rootObject name) = some name :=
  rfl

/-- A statement of a generated program: it declares a constant or assigns something. -/
def IsGenerated (rootObject : String) (statement : Json) : Prop :=
  (∃ name, statement = constant rootObject name) ∨ Node.IsAssignment statement

/-- An expression that starts from the global object or from a constant among the statements. -/
def StartsFromDeclared (rootObject : String) (statements : List Json) (expression : Json) : Prop :=
  ∃ base, Node.baseName? expression = some base ∧
    (base = rootObject ∨ constant rootObject base ∈ statements)

section

variable {options : Options} {segments : List String} {statement expression : Json}

theorem mem_opening (isOpening : statement ∈ opening options segments) :
    (∃ names, statement = Scope.guard
        (Scope.chain (Node.identifier (.str options.rootObject)) names)) ∨
      ∃ name, statement = constant options.rootObject name := by
  rw [opening, List.mem_append, List.mem_append] at isOpening
  rcases isOpening with (isGuard | isRoot) | isSuperclass
  · rcases List.mem_map.mp isGuard with ⟨index, _, rfl⟩
    exact .inl ⟨_, rfl⟩
  · unfold rootConstants at isRoot
    split at isRoot
    · exact .inr ⟨_, List.mem_singleton.mp isRoot⟩
    · simp at isRoot
  · unfold superclassConstants at isSuperclass
    split at isSuperclass
    · split at isSuperclass
      · simp at isSuperclass
      · exact .inr ⟨_, List.mem_singleton.mp isSuperclass⟩
    · simp at isSuperclass

theorem not_assignsClass_of_mem_opening (isOpening : statement ∈ opening options segments) :
    Node.assignsClass statement = false := by
  rcases mem_opening isOpening with ⟨names, rfl⟩ | ⟨name, rfl⟩
  · rfl
  · rfl

theorem startsFromDeclared_of_mem_opening (statements : List Json)
    (isOpening : statement ∈ opening options segments)
    (isAssigned : expression ∈ Node.assigned? statement) :
    StartsFromDeclared options.rootObject statements expression := by
  rcases mem_opening isOpening with ⟨names, rfl⟩ | ⟨name, rfl⟩
  · obtain rfl : Scope.chain (Node.identifier (.str options.rootObject)) names = expression :=
      Option.some.inj isAssigned
    exact ⟨options.rootObject, by simp, .inl rfl⟩
  · simp [constant] at isAssigned

theorem startsFromDeclared_access (options : Options) (segments : List String) :
    StartsFromDeclared options.rootObject (opening options segments)
      (Scope.access options.rootObject segments) := by
  unfold Scope.access
  split
  · rename_i first second rest
    refine ⟨first, by simp, .inr ?_⟩
    simp [opening, rootConstants]
  · exact ⟨options.rootObject, by simp, .inl rfl⟩

/-- The root of the superclass has its own constant, or the one for the root of the class. -/
theorem startsFromDeclared_superclass {superSegments : List String}
    (superclassIs : options.superclassSegments = some superSegments) (segments : List String) :
    StartsFromDeclared options.rootObject (opening options segments)
      (Scope.access options.rootObject superSegments) := by
  unfold Scope.access
  split
  · rename_i first second rest
    refine ⟨first, by simp, .inr ?_⟩
    rw [opening, superclassIs, superclassConstants]
    split
    · rename_i sharesRoot
      rcases sharesRoot with ⟨isLong, firstIs⟩
      rcases segments with _ | ⟨root, _ | ⟨next, others⟩⟩
      · simp at isLong
      · simp at isLong
      · obtain rfl : root = first := by simpa using firstIs
        simp [rootConstants]
    · simp
  · exact ⟨options.rootObject, by simp, .inl rfl⟩

theorem exists_superclassSegments {path : NamespacePath} {members : List Json}
    (isSuperclass : expression ∈ Node.superclass? (classStatement options path members)) :
    ∃ superSegments, options.superclassSegments = some superSegments ∧
      expression = Scope.access options.rootObject superSegments := by
  have superclassIs : Node.superclass? (classStatement options path members) =
      (some (superclass options.rootObject options.superclassSegments)).filter (· ≠ .null) := rfl
  rw [superclassIs, Option.mem_def, Option.filter_eq_some_iff] at isSuperclass
  rcases isSuperclass with ⟨isSuperclass, isGiven⟩
  rw [Option.some.injEq] at isSuperclass
  cases segmentsAre : options.superclassSegments with
  | none => simp [← isSuperclass, superclass, segmentsAre] at isGiven
  | some superSegments =>
      exact ⟨superSegments, rfl, by simp [← isSuperclass, superclass, segmentsAre]⟩

end

end Layout

namespace Conversion

variable {options : Options} {parameters : Json} {conversion : Conversion}

/-- The statements of a conversion, by its layout. -/
theorem exists_statements_eq
    (converts : (ofParameters options parameters).outcome = .ok conversion) :
    ∃ members data, conversion.statements =
      Layout.opening options conversion.path.segments ++
        Layout.classStatement options conversion.path members ::
          Layout.staticAssignments options conversion.path.segments data := by
  rcases exists_stages converts with ⟨stages, _, _, rfl⟩
  refine ⟨stages.addition.body, stages.arguments.staticEntries.filter (!·.isMethod), ?_⟩
  calc stages.opening ++ [stages.extension.shell.statement stages.addition.body] ++ stages.trailing
      = stages.opening ++ stages.extension.shell.statement stages.addition.body ::
          stages.trailing := (List.append_cons _ _ _).symm
    _ = _ := by
      rw [stages.opening_eq, stages.classStatement_eq, stages.trailing_eq]
      rfl

theorem isGenerated_of_mem (converts : (ofParameters options parameters).outcome = .ok conversion)
    {statement : Json} (statementMem : statement ∈ conversion.statements) :
    Layout.IsGenerated options.rootObject statement := by
  rcases exists_statements_eq converts with ⟨members, data, statementsAre⟩
  rw [statementsAre, List.mem_append, List.mem_cons] at statementMem
  rcases statementMem with isOpening | rfl | isStatic
  · rcases Layout.mem_opening isOpening with ⟨names, rfl⟩ | ⟨name, rfl⟩
    · exact .inr ⟨_, _, rfl⟩
    · exact .inl ⟨name, rfl⟩
  · exact .inr ⟨_, _, rfl⟩
  · rcases List.mem_map.mp isStatic with ⟨entry, _, rfl⟩
    exact .inr ⟨_, _, rfl⟩

/-- No statement before the class assigns a class. -/
theorem classIndex_eq {members trailing : List Json}
    (layoutIs : conversion.statements = Layout.opening options conversion.path.segments ++
      Layout.classStatement options conversion.path members :: trailing) :
    conversion.classIndex = (Layout.opening options conversion.path.segments).length := by
  have notBefore : ∀ other ∈ Layout.opening options conversion.path.segments,
      Node.assignsClass other = false :=
    fun _ isOpening => Layout.not_assignsClass_of_mem_opening isOpening
  have isClass : Node.assignsClass
      (Layout.classStatement options conversion.path members) = true := rfl
  rw [classIndex, layoutIs, List.findIdx_append, List.findIdx_cons, isClass,
    List.findIdx_eq_length_of_false notBefore]
  simp

/-- Where a statement stands that is before the class, the class or after it. -/
theorem append_cons_cases {opening trailing before after : List Json} {middle statement : Json}
    (same : opening ++ middle :: trailing = before ++ statement :: after) :
    (before.length < opening.length ∧ statement ∈ opening) ∨
      (before = opening ∧ statement = middle) ∨
      (opening.length < before.length ∧ opening ⊆ before ∧ statement ∈ trailing) := by
  rcases List.append_eq_append_iff.mp same with ⟨between, rfl, middleIs⟩ | ⟨between, rfl, restIs⟩
  · cases between with
    | nil =>
        obtain ⟨rfl, _⟩ := List.cons.inj middleIs
        simp
    | cons head tail =>
        obtain ⟨_, rfl⟩ := List.cons.inj middleIs
        simp
  · cases between with
    | nil =>
        obtain ⟨rfl, _⟩ := List.cons.inj restIs
        simp
    | cons head tail =>
        obtain ⟨rfl, _⟩ := List.cons.inj restIs
        simp

/-- Every statement stands before the class, is the class or assigns static data after it. -/
theorem statement_cases (converts : (ofParameters options parameters).outcome = .ok conversion)
    {before after : List Json} {statement : Json}
    (statementsAre : conversion.statements = before ++ statement :: after) :
    (before.length < conversion.classIndex ∧
        statement ∈ Layout.opening options conversion.path.segments) ∨
      (before.length = conversion.classIndex ∧
        before = Layout.opening options conversion.path.segments ∧
        ∃ members, statement = Layout.classStatement options conversion.path members) ∨
      (conversion.classIndex < before.length ∧
        Layout.opening options conversion.path.segments ⊆ before ∧
        ∃ key computed value, statement = Node.assignmentStatement
          (Node.member (Scope.access options.rootObject conversion.path.segments) key computed)
          value) := by
  rcases exists_statements_eq converts with ⟨members, data, layoutIs⟩
  rw [classIndex_eq layoutIs]
  rcases append_cons_cases (layoutIs.symm.trans statementsAre) with
    ⟨isBefore, isOpening⟩ | ⟨rfl, rfl⟩ | ⟨isAfter, openingStays, isStatic⟩
  · exact .inl ⟨isBefore, isOpening⟩
  · exact .inr (.inl ⟨rfl, rfl, members, rfl⟩)
  · rcases List.mem_map.mp isStatic with ⟨entry, _, rfl⟩
    exact .inr (.inr ⟨isAfter, openingStays, _, _, _, rfl⟩)

section

variable (converts : (ofParameters options parameters).outcome = .ok conversion)
  {before after : List Json} {statement expression : Json}
  (statementsAre : conversion.statements = before ++ statement :: after)
  (isPath : expression ∈ conversion.pathsAt before.length)

include statementsAre isPath in
theorem mem_assigned?_or_superclass? :
    expression ∈ Node.assigned? statement ∨
      (before.length = conversion.classIndex ∧ expression ∈ Node.superclass? statement) := by
  have statementIs : conversion.statements[before.length]? = some statement := by
    rw [statementsAre]
    simp
  rw [pathsAt, statementIs, List.mem_append, Option.mem_toList] at isPath
  rcases isPath with isAssigned | isSuperclass
  · exact .inl isAssigned
  · split at isSuperclass
    · rename_i isClass
      exact .inr ⟨isClass, Option.mem_toList.mp isSuperclass⟩
    · simp at isSuperclass

include converts statementsAre isPath

/-- Only a statement that assigns something reaches a path. -/
theorem isAssignment_of_mem_pathsAt : Node.IsAssignment statement := by
  have statementMem : statement ∈ conversion.statements := by
    rw [statementsAre]
    simp
  rcases isGenerated_of_mem converts statementMem with ⟨name, rfl⟩ | isAssignment
  · rcases mem_assigned?_or_superclass? statementsAre isPath with isAssigned | ⟨_, isSuperclass⟩
    · simp [Layout.constant] at isAssigned
    · have nothing : Node.superclass? (Layout.constant options.rootObject name) = none := rfl
      simp [nothing] at isSuperclass
  · exact isAssignment

/-- A path starts from the global object or from a constant that is declared before it. -/
theorem startsFromDeclared_of_mem_pathsAt :
    Layout.StartsFromDeclared options.rootObject before expression := by
  rcases statement_cases converts statementsAre with
    ⟨isBefore, isOpening⟩ | ⟨_, rfl, members, rfl⟩ |
      ⟨isAfter, openingStays, key, computed, value, rfl⟩
  · rcases mem_assigned?_or_superclass? statementsAre isPath with isAssigned | ⟨isClass, _⟩
    · exact Layout.startsFromDeclared_of_mem_opening before isOpening isAssigned
    · omega
  · rcases mem_assigned?_or_superclass? statementsAre isPath with isAssigned | ⟨_, isSuperclass⟩
    · obtain rfl := Option.some.inj isAssigned
      exact Layout.startsFromDeclared_access options conversion.path.segments
    · rcases Layout.exists_superclassSegments isSuperclass with ⟨_, superclassIs, rfl⟩
      exact Layout.startsFromDeclared_superclass superclassIs _
  · rcases mem_assigned?_or_superclass? statementsAre isPath with isAssigned | ⟨isClass, _⟩
    · obtain rfl := Option.some.inj isAssigned
      -- Static data is a member of the class, which is reached as in the class statement.
      rcases Layout.startsFromDeclared_access options conversion.path.segments with
        ⟨base, baseIs, isDeclared⟩
      exact ⟨base, by rw [Node.baseName?_member, baseIs], isDeclared.imp_right (openingStays ·)⟩
    · omega

end

end Conversion

end ClassLift

import ClassLift.Proofs.ClassBody.Addition
import ClassLift.Proofs.Namespace.Constant

/-!
# Runs of a scope

A scope can be used any number of times, in any order and for any paths: to
guard the containers of a path, to declare its root, to reach it, to start a
class, to let a class extend another and to assign static data. A run keeps what
each use gave. `Scope.Disciplined` says what holds of every use in every run: the
declared roots are those of the start and those that the statements so far
declare, no root is declared twice, guards start from the global object, and
every other path is reached through the constant for its root exactly if there
is one.

The proof keeps one equation along the run: the roots of the scope are those of
the start followed by the declared ones, in order.
-/

namespace ClassLift

/-- An operation that uses a scope. -/
inductive ScopeUse where
  | guards (path : NamespacePath)
  | declareAlias (path : NamespacePath)
  | resolve (path : NamespacePath)
  | accessor (path : NamespacePath)
  | startClass (path : NamespacePath)
  | extendClass (shell : ClassShell) (path? : Option NamespacePath)
  | assignStatics (data : List MemberEntry) (path : NamespacePath)

/-- A use of a scope: its statements, the paths it reaches and how, and the scope after it. -/
structure PerformedUse where
  use : ScopeUse
  before : Scope
  statements : List Json
  reached : List (NamespacePath × Json)
  after : Scope

namespace ScopeUse

/-- Performs a use; the paths reached by assignments are read off their left sides. -/
def perform (before : Scope) (use : ScopeUse) : Except Failure PerformedUse :=
  match use with
  | .guards path => return ⟨use, before, before.guards path, [], before⟩
  | .declareAlias path => do
      let (declaration, after) ← (before.declareAlias path).outcome
      return ⟨use, before, declaration.toList, [], after⟩
  | .resolve path => do
      let (statements, after) ← (before.resolve path).outcome
      return ⟨use, before, statements, [], after⟩
  | .accessor path => return ⟨use, before, [], [(path, before.accessor path)], before⟩
  | .startClass path => do
      let statement := (ClassShell.ofPath before path).statement []
      return ⟨use, before, [statement], [(path, (Node.assigned? statement).getD .null)], before⟩
  | .extendClass shell path? => do
      let extension ← (shell.extend before path?).outcome
      let superClass := extension.shell.superClass.getD .null
      return ⟨use, before, extension.statements, path?.toList.map (·, superClass),
        extension.scope⟩
  | .assignStatics data path => do
      let statements ← StaticMembers.assignments before path data
      return ⟨use, before, statements,
        statements.map fun statement => (path, (Node.assignedObject? statement).getD .null),
        before⟩

/-- The path whose root a use may declare. -/
def declaring? : ScopeUse → Option NamespacePath
  | .declareAlias path | .resolve path | .extendClass _ (some path) => some path
  | .guards _ | .accessor _ | .startClass _ | .extendClass _ none | .assignStatics _ _ => none

/-- The path whose containers a use guards. -/
def guarding? : ScopeUse → Option NamespacePath
  | .guards path | .resolve path => some path
  | .declareAlias _ | .accessor _ | .startClass _ | .extendClass _ _ | .assignStatics _ _ => none

end ScopeUse

namespace Scope

/-- Uses a scope again and again, each time as the use before it left it. -/
def run : Scope → List ScopeUse → Except Failure (List PerformedUse)
  | _, [] => .ok []
  | scope, use :: uses => do
      let performed ← use.perform scope
      let later ← run performed.after uses
      return performed :: later

/-- The names that statements declare as constants, in order. -/
def declaredNames (statements : List Json) : List String :=
  statements.filterMap Node.constantName?

/-- The names that the statements of a run declare. -/
def declaredBy (history : List PerformedUse) : List String :=
  declaredNames (history.flatMap (·.statements))

/--
An expression that reaches a path: through the constant for its root if there is
one, which stands for a member of the global object, and from there otherwise.
-/
def Reaches (scope : Scope) (path : NamespacePath) (expression : Json) : Prop :=
  if 2 ≤ path.segments.length ∧ path.root ∈ scope.aliases then
    expression = chain (Node.identifier (.str path.root)) path.segments.tail ∧
      Node.expandBase path.root (Node.dot scope.global (.str path.root)) expression =
        chain scope.global path.segments
  else expression = chain scope.global path.segments

/-- What holds of a use in a run that starts with the given roots, after the earlier uses. -/
structure Disciplined (rootObject : String) (initial : List String)
    (earlier : List PerformedUse) (performed : PerformedUse) : Prop where
  startsFrom : performed.before =
    (earlier.getLast?.map PerformedUse.after).getD ⟨rootObject, initial⟩
  rootKept : performed.after.rootObject = rootObject
  neverShrinks : performed.before.aliases ⊆ performed.after.aliases
  aliasesAre : ∀ name, name ∈ performed.after.aliases ↔
    name ∈ initial ∨ name ∈ declaredBy (earlier ++ [performed])
  declaredOnce : (declaredBy (earlier ++ [performed])).Nodup
  declaredNew : ∀ name ∈ declaredBy (earlier ++ [performed]), name ∉ initial
  declaresMissing : ∀ name, name ∈ declaredNames performed.statements ↔
    name ∉ performed.before.aliases ∧
      ∃ path ∈ performed.use.declaring?, 2 ≤ path.segments.length ∧ path.root = name
  constantsAre : ∀ statement ∈ performed.statements, Node.isConstant statement = true →
    ∃ name, statement = Node.constDeclaration (.str name)
      (Node.dot (Node.identifier (.str rootObject)) (.str name))
  guardsAre : ∀ path ∈ performed.use.guarding?,
    performed.statements.filter (!Node.isConstant ·) =
      (List.range (path.segments.length - 1)).map fun index =>
        guard (chain (Node.identifier (.str rootObject)) (path.segments.take (index + 1)))
  reaches : ∀ path expression, (path, expression) ∈ performed.reached →
    performed.after.Reaches path expression
  basesDeclared : ∀ path expression, (path, expression) ∈ performed.reached →
    ∃ base, Node.baseName? expression = some base ∧
      (base = rootObject ∨ base ∈ initial ∨ base ∈ declaredBy (earlier ++ [performed]))

/-! ## One use -/

theorem isAssignment_of_mem_guardsBelow {object statement : Json} {names : List String}
    (isGuard : statement ∈ guardsBelow object names) : Node.IsAssignment statement := by
  rw [guardsBelow_eq] at isGuard
  rcases List.mem_map.mp isGuard with ⟨index, _, rfl⟩
  exact ⟨_, _, rfl⟩

theorem declaredNames_of_assignments {statements : List Json}
    (assign : ∀ statement ∈ statements, Node.IsAssignment statement) :
    declaredNames statements = [] := by
  rw [declaredNames, List.filterMap_eq_nil_iff]
  intro statement statementMem
  rcases assign statement statementMem with ⟨left, right, rfl⟩
  rfl

theorem declaredNames_append (front back : List Json) :
    declaredNames (front ++ back) = declaredNames front ++ declaredNames back :=
  List.filterMap_append

theorem declaredBy_append (earlier : List PerformedUse) (performed : PerformedUse) :
    declaredBy (earlier ++ [performed]) =
      declaredBy earlier ++ declaredNames performed.statements := by
  simp [declaredBy, declaredNames_append]

end Scope

namespace PerformedUse

/-- The root that a use declares, if it declares one. -/
def declared? (performed : PerformedUse) : Option String :=
  performed.use.declaring?.bind performed.before.newAlias?

/-- What one use does: it assigns, may then declare one root, and reaches paths after that. -/
structure Regular (performed : PerformedUse) : Prop where
  statementsAre : ∃ assignments, (∀ statement ∈ assignments, Node.IsAssignment statement) ∧
    (∀ path ∈ performed.use.guarding?, assignments = performed.before.guards path) ∧
    performed.statements =
      assignments ++ (performed.declared?.map performed.before.aliasStatement).toList
  afterIs : performed.after = { performed.before with
    aliases := performed.before.aliases ++ performed.declared?.toList }
  reachedAre : ∀ path expression, (path, expression) ∈ performed.reached →
    expression = performed.after.accessor path

/-- A use that declares nothing leaves the scope as it is. -/
theorem regular_of_assignments {performed : PerformedUse}
    (declaresNothing : performed.use.declaring? = none)
    (assign : ∀ statement ∈ performed.statements, Node.IsAssignment statement)
    (guardsAre : ∀ path ∈ performed.use.guarding?,
      performed.statements = performed.before.guards path)
    (same : performed.after = performed.before)
    (reachedAre : ∀ path expression, (path, expression) ∈ performed.reached →
      expression = performed.before.accessor path) : performed.Regular where
  statementsAre :=
    ⟨performed.statements, assign, guardsAre, by simp [declared?, declaresNothing]⟩
  afterIs := by simp [same, declared?, declaresNothing]
  reachedAre := by simpa only [same] using reachedAre

end PerformedUse

namespace ScopeUse

variable {before : Scope} {use : ScopeUse} {performed : PerformedUse}

theorem perform_regular (performs : use.perform before = .ok performed) :
    performed.use = use ∧ performed.before = before ∧ performed.Regular := by
  cases use with
  | guards path =>
      obtain rfl := pure_eq_ok_iff.mp performs
      refine ⟨rfl, rfl, PerformedUse.regular_of_assignments rfl ?_ ?_ rfl (by simp)⟩
      · intro statement isGuard
        exact Scope.isAssignment_of_mem_guardsBelow isGuard
      · intro other isGuarded
        rw [Option.some.inj isGuarded]
  | declareAlias path =>
      rw [perform, Scope.declareAlias_outcome] at performs
      obtain rfl := pure_eq_ok_iff.mp performs
      exact ⟨rfl, rfl, ⟨[], by simp, by simp [guarding?], rfl⟩, rfl, by simp⟩
  | resolve path =>
      rw [perform, Scope.resolve_outcome] at performs
      obtain rfl := pure_eq_ok_iff.mp performs
      refine ⟨rfl, rfl, ⟨before.guards path, ?_, ?_, rfl⟩, rfl, by simp⟩
      · intro statement isGuard
        exact Scope.isAssignment_of_mem_guardsBelow isGuard
      · intro other isGuarded
        rw [Option.some.inj isGuarded]
  | accessor path =>
      obtain rfl := pure_eq_ok_iff.mp performs
      refine ⟨rfl, rfl, PerformedUse.regular_of_assignments rfl (by simp)
        (by simp [guarding?]) rfl ?_⟩
      intro other expression isReached
      obtain ⟨rfl, rfl⟩ := Prod.mk.inj (List.mem_singleton.mp isReached)
      rfl
  | startClass path =>
      obtain rfl := pure_eq_ok_iff.mp performs
      refine ⟨rfl, rfl, PerformedUse.regular_of_assignments rfl ?_
        (by simp [guarding?]) rfl ?_⟩
      · intro statement isClass
        exact ⟨_, _, List.mem_singleton.mp isClass⟩
      · intro other expression isReached
        obtain ⟨rfl, rfl⟩ := Prod.mk.inj (List.mem_singleton.mp isReached)
        rfl
  | extendClass shell path? =>
      cases path? with
      | none =>
          rcases bind_eq_ok_iff.mp performs with ⟨extension, extends_, performs⟩
          obtain rfl := pure_eq_ok_iff.mp performs
          simp only [ClassShell.extend, Traced.outcome_bind, Traced.outcome_record,
            Traced.outcome_pure, bind_eq_ok_iff, Except.ok.injEq] at extends_
          rcases extends_ with ⟨_, _, rfl⟩
          exact ⟨rfl, rfl, PerformedUse.regular_of_assignments rfl (by simp)
            (by simp [guarding?]) rfl (by simp)⟩
      | some path =>
          rw [perform, ClassShell.extend_some_outcome] at performs
          obtain rfl := pure_eq_ok_iff.mp performs
          refine ⟨rfl, rfl, ⟨[], by simp, by simp [guarding?], rfl⟩, rfl, ?_⟩
          intro other expression isReached
          obtain ⟨rfl, rfl⟩ := Prod.mk.inj (List.mem_singleton.mp isReached)
          rfl
  | assignStatics data path =>
      rcases bind_eq_ok_iff.mp performs with ⟨statements, assigns, performs⟩
      obtain rfl := pure_eq_ok_iff.mp performs
      have statementsAre := MemberEntry.mapM_toAssignment_eq_ok assigns
      subst statementsAre
      refine ⟨rfl, rfl, PerformedUse.regular_of_assignments rfl ?_
        (by simp [guarding?]) rfl ?_⟩
      · intro statement isAssigned
        rcases List.mem_map.mp isAssigned with ⟨entry, _, rfl⟩
        exact ⟨_, _, rfl⟩
      · intro other expression isReached
        rcases List.mem_map.mp isReached with ⟨statement, isAssigned, pairIs⟩
        rcases List.mem_map.mp isAssigned with ⟨entry, _, rfl⟩
        obtain ⟨rfl, rfl⟩ := Prod.mk.inj pairIs
        rfl

end ScopeUse

namespace PerformedUse

variable {performed : PerformedUse}

theorem Regular.declaredNames_eq (regular : performed.Regular) :
    Scope.declaredNames performed.statements = performed.declared?.toList := by
  rcases regular.statementsAre with ⟨assignments, assign, _, statementsAre⟩
  rw [statementsAre, Scope.declaredNames_append, Scope.declaredNames_of_assignments assign,
    List.nil_append]
  cases performed.declared? <;> rfl

theorem Regular.isConstant_imp (regular : performed.Regular) {statement : Json}
    (statementMem : statement ∈ performed.statements)
    (isConstant : Node.isConstant statement = true) :
    ∃ name, statement = performed.before.aliasStatement name := by
  rcases regular.statementsAre with ⟨assignments, assign, _, statementsAre⟩
  rw [statementsAre, List.mem_append] at statementMem
  rcases statementMem with isAssignment | isDeclaration
  · rcases assign statement isAssignment with ⟨left, right, rfl⟩
    simp at isConstant
  · rw [Option.mem_toList, Option.map_eq_some_iff] at isDeclaration
    rcases isDeclaration with ⟨name, _, rfl⟩
    exact ⟨name, rfl⟩

/-- What a use assigns besides declaring a root are the guards that it is asked for. -/
theorem Regular.filter_not_isConstant (regular : performed.Regular) {path : NamespacePath}
    (isGuarded : path ∈ performed.use.guarding?) :
    performed.statements.filter (!Node.isConstant ·) = performed.before.guards path := by
  rcases regular.statementsAre with ⟨assignments, assign, guardsAre, statementsAre⟩
  have allKept : assignments.filter (!Node.isConstant ·) = assignments := by
    rw [List.filter_eq_self]
    intro statement isAssignment
    rcases assign statement isAssignment with ⟨left, right, rfl⟩
    rfl
  rw [statementsAre, List.filter_append, allKept, guardsAre path isGuarded]
  cases performed.declared? with
  | none => exact List.append_nil _
  | some name => exact List.append_nil _

/-- A root is declared exactly if it is asked for, needs a constant and has none. -/
theorem mem_declared?_iff (name : String) :
    name ∈ performed.declared? ↔ name ∉ performed.before.aliases ∧
      ∃ path ∈ performed.use.declaring?, 2 ≤ path.segments.length ∧ path.root = name := by
  rw [Option.mem_def, declared?, Option.bind_eq_some_iff]
  constructor
  · rintro ⟨path, pathIs, nameIs⟩
    rw [Scope.newAlias?, Option.ite_none_right_eq_some, Option.some.injEq] at nameIs
    rcases nameIs with ⟨⟨isNested, isMissing⟩, rfl⟩
    exact ⟨isMissing, path, pathIs, path.isNested_iff.mp isNested, rfl⟩
  · rintro ⟨isMissing, path, pathIs, isLong, rfl⟩
    refine ⟨path, pathIs, ?_⟩
    rw [Scope.newAlias?, if_pos ⟨path.isNested_iff.mpr isLong, isMissing⟩]

end PerformedUse

namespace Scope

/-- How the accessor of a path is spelled, and what it stands for. -/
theorem reaches_accessor (scope : Scope) (path : NamespacePath) :
    scope.Reaches path (scope.accessor path) := by
  unfold Reaches accessor
  simp only [Bool.and_eq_true, List.contains_iff_mem, path.isNested_iff]
  split
  · refine ⟨rfl, ?_⟩
    have segmentsAre : path.segments = path.root :: path.belowRoot := by
      rcases path.segments_cases with ⟨_, segmentsAre, _⟩ | ⟨_, second, rest, segmentsAre⟩
      · simp [NamespacePath.belowRoot, segmentsAre]
      · simp [NamespacePath.belowRoot, segmentsAre]
    rw [segmentsAre]
    exact expandBase_chain_identifier scope.rootObject path.root path.belowRoot
  · rfl

theorem Reaches.exists_baseName {scope : Scope} {path : NamespacePath} {expression : Json}
    (reaches : scope.Reaches path expression) :
    ∃ base, Node.baseName? expression = some base ∧
      (base = scope.rootObject ∨ base ∈ scope.aliases) := by
  unfold Reaches at reaches
  split at reaches
  · rename_i isDeclared
    exact ⟨path.root, by rw [reaches.1]; simp, .inr isDeclared.2⟩
  · exact ⟨scope.rootObject, by rw [reaches]; simp [global], .inl rfl⟩

/-! ## Runs -/

/-- What a run keeps: its roots are those of the start and then the declared ones, each once. -/
structure Keeps (rootObject : String) (initial : List String) (past : List PerformedUse)
    (scope : Scope) : Prop where
  scopeIs : scope = ⟨rootObject, initial ++ declaredBy past⟩
  declaredOnce : (declaredBy past).Nodup
  declaredNew : ∀ name ∈ declaredBy past, name ∉ initial

section

variable {rootObject : String} {initial : List String} {past : List PerformedUse} {scope : Scope}
  {performed : PerformedUse}

theorem Keeps.start : Keeps rootObject initial [] ⟨rootObject, initial⟩ :=
  ⟨by simp [declaredBy, declaredNames], by simp [declaredBy, declaredNames],
    by simp [declaredBy, declaredNames]⟩

theorem Keeps.step (keeps : Keeps rootObject initial past performed.before)
    (regular : performed.Regular) :
    Keeps rootObject initial (past ++ [performed]) performed.after := by
  have isMissing : ∀ name ∈ performed.declared?, name ∉ initial ∧ name ∉ declaredBy past := by
    intro name isDeclared
    have isMissing := ((PerformedUse.mem_declared?_iff name).mp isDeclared).1
    rw [keeps.scopeIs, List.mem_append, not_or] at isMissing
    exact isMissing
  refine ⟨?_, ?_, ?_⟩
  · rw [regular.afterIs, keeps.scopeIs, declaredBy_append, regular.declaredNames_eq,
      List.append_assoc]
  · rw [declaredBy_append, regular.declaredNames_eq, List.nodup_append]
    refine ⟨keeps.declaredOnce, ?_, ?_⟩
    · cases performed.declared? <;> simp
    · rintro name isEarlier other isNew rfl
      exact (isMissing name (Option.mem_toList.mp isNew)).2 isEarlier
  · intro name isDeclared
    rw [declaredBy_append, regular.declaredNames_eq, List.mem_append] at isDeclared
    rcases isDeclared with isEarlier | isNew
    · exact keeps.declaredNew name isEarlier
    · exact (isMissing name (Option.mem_toList.mp isNew)).1

theorem Keeps.disciplined (keeps : Keeps rootObject initial past performed.before)
    (startsFrom : performed.before =
      (past.getLast?.map PerformedUse.after).getD ⟨rootObject, initial⟩)
    (regular : performed.Regular) : Disciplined rootObject initial past performed := by
  have after := keeps.step regular
  have aliasesAre : ∀ name, name ∈ performed.after.aliases ↔
      name ∈ initial ∨ name ∈ declaredBy (past ++ [performed]) := by
    intro name
    rw [after.scopeIs, List.mem_append]
  have reaches : ∀ path expression, (path, expression) ∈ performed.reached →
      performed.after.Reaches path expression := by
    intro path expression isReached
    rw [regular.reachedAre path expression isReached]
    exact reaches_accessor performed.after path
  refine ⟨startsFrom, by rw [after.scopeIs], ?_, aliasesAre, after.declaredOnce,
    after.declaredNew, ?_, ?_, ?_, reaches, ?_⟩
  · rw [regular.afterIs]
    exact List.subset_append_left _ _
  · intro name
    rw [regular.declaredNames_eq, Option.mem_toList]
    exact PerformedUse.mem_declared?_iff name
  · intro statement statementMem isConstant
    rcases regular.isConstant_imp statementMem isConstant with ⟨name, rfl⟩
    exact ⟨name, by rw [keeps.scopeIs]; rfl⟩
  · intro path isGuarded
    rw [regular.filter_not_isConstant isGuarded, guards_eq_map, keeps.scopeIs]
    rfl
  · intro path expression isReached
    rcases (reaches path expression isReached).exists_baseName with ⟨base, baseIs, isKnown⟩
    rw [after.scopeIs, List.mem_append] at isKnown
    exact ⟨base, baseIs, isKnown⟩

/-- Every use of a run that goes on after the given past is disciplined. -/
theorem Keeps.run {uses : List ScopeUse} {history : List PerformedUse}
    (keeps : Keeps rootObject initial past scope)
    (startsFrom : scope = (past.getLast?.map PerformedUse.after).getD ⟨rootObject, initial⟩)
    (runs : scope.run uses = .ok history) :
    history.map PerformedUse.use = uses ∧
      ∀ earlier performed later, history = earlier ++ performed :: later →
        Disciplined rootObject initial (past ++ earlier) performed := by
  induction uses generalizing scope past history with
  | nil =>
      obtain rfl : [] = history := by simpa [Scope.run] using runs
      simp
  | cons use uses ih =>
      rcases bind_eq_ok_iff.mp runs with ⟨first, performs, runs⟩
      rcases bind_eq_ok_iff.mp runs with ⟨later, runsLater, runs⟩
      obtain rfl := pure_eq_ok_iff.mp runs
      rcases ScopeUse.perform_regular performs with ⟨rfl, rfl, regular⟩
      -- The first use joins the past of the others.
      have others := ih (keeps.step regular) (by simp) runsLater
      refine ⟨by rw [List.map_cons, others.1], ?_⟩
      intro earlier performed rest historyIs
      cases earlier with
      | nil =>
          obtain ⟨rfl, rfl⟩ := List.cons.inj historyIs
          rw [List.append_nil]
          exact keeps.disciplined startsFrom regular
      | cons head tail =>
          obtain ⟨rfl, rfl⟩ := List.cons.inj historyIs
          have isDisciplined := others.2 tail performed rest rfl
          rwa [List.append_assoc] at isDisciplined

end

/--
Whatever a scope is used for, and in whichever order, every use in the run is
disciplined: no root is declared twice or reached without its constant.
-/
theorem run_disciplined {rootObject : String} {initial : List String} {uses : List ScopeUse}
    {history : List PerformedUse} (runs : run ⟨rootObject, initial⟩ uses = .ok history) :
    history.map PerformedUse.use = uses ∧
      ∀ earlier performed later, history = earlier ++ performed :: later →
        Disciplined rootObject initial earlier performed :=
  Keeps.start.run rfl runs

/-- A class below `app` that extends one below `lib`, and accesses before and after. -/
def sampleUses : List ScopeUse :=
  let button : NamespacePath := ⟨["app", "ui"], "button"⟩
  let version : MemberEntry :=
    ⟨Node.identifier (.str "version"), Node.literal (.int 3), false, .str "init"⟩
  [.accessor button, .resolve button, .startClass button,
    .extendClass ⟨.null, "Button", none⟩ (some ⟨["lib"], "Base"⟩),
    .declareAlias ⟨["lib", "core"], "Other"⟩, .extendClass ⟨.null, "Button", none⟩ none,
    .assignStatics [version] button, .accessor ⟨["old"], "Widget"⟩, .guards ⟨["app"], "Menu"⟩]

theorem run_disciplined_sampleUses :
    ∃ history, run ⟨"window", ["old"]⟩ sampleUses = .ok history ∧
      declaredBy history = ["app", "lib"] ∧
      history.map PerformedUse.use = sampleUses ∧
      ∀ earlier performed later, history = earlier ++ performed :: later →
        Disciplined "window" ["old"] earlier performed :=
  ⟨_, rfl, rfl, run_disciplined rfl⟩

end Scope

end ClassLift

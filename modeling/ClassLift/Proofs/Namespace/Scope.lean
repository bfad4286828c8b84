import ClassLift.ClassShell
import ClassLift.Proofs.LookUp

/-!
# Paths and the constants for their roots

A parsed path has the pieces of its text as segments. In a scope, the operations
on paths are plain functions: which root a path adds to the declared ones, which
containers its guards are for, and how it is reached once its root is declared.
-/

namespace ClassLift

namespace NamespacePath

theorem segments_of_ofSegments? {segments : List String} {path : NamespacePath}
    (found : ofSegments? segments = some path) : path.segments = segments := by
  unfold ofSegments? at found
  rcases Option.map_eq_some_iff.mp found with ⟨className, isLast, rfl⟩
  rcases List.getLast?_eq_some_iff.mp isLast with ⟨containers, rfl⟩
  simp [NamespacePath.segments]

/-- A path that is read from a text has the pieces of the text as segments, none of them empty. -/
theorem segments_of_parse {text : String} {path : NamespacePath}
    (parses : parse (.str text) = .ok path) :
    path.segments = Text.pieces '.' text ∧ "" ∉ path.segments := by
  unfold parse at parses
  simp only at parses
  split at parses
  · simp at parses
  split at parses
  · simp at parses
  rename_i noEmpty
  cases found : ofSegments? (Text.pieces '.' text) with
  | none => simp [found] at parses
  | some other =>
      simp only [found, Except.ok.injEq] at parses
      subst parses
      have segmentsAre := segments_of_ofSegments? found
      rw [segmentsAre]
      exact ⟨rfl, by simpa using noEmpty⟩

/-- A path is a class name alone, or its root and at least one segment below it. -/
theorem segments_cases (path : NamespacePath) :
    (path.isNested = false ∧ path.segments = [path.root] ∧ path.root = path.className) ∨
      (path.isNested = true ∧ ∃ second rest, path.segments = path.root :: second :: rest) := by
  cases containersAre : path.containers with
  | nil =>
      left
      simp [isNested, segments, root, containersAre]
  | cons first below =>
      right
      cases below with
      | nil => simp [isNested, segments, root, containersAre]
      | cons second rest => simp [isNested, segments, root, containersAre]

theorem isNested_iff (path : NamespacePath) :
    path.isNested = true ↔ 2 ≤ path.segments.length := by
  rcases path.segments_cases with
    ⟨notNested, segmentsAre, _⟩ | ⟨isNested, second, rest, segmentsAre⟩
  · simp [notNested, segmentsAre]
  · simp [isNested, segmentsAre]

theorem head?_segments (path : NamespacePath) : path.segments.head? = some path.root := by
  rcases path.segments_cases with ⟨_, segmentsAre, _⟩ | ⟨_, second, rest, segmentsAre⟩
  · rw [segmentsAre, List.head?_cons]
  · rw [segmentsAre, List.head?_cons]

end NamespacePath

namespace Scope

/-- There is a guard for each container, and its chain has one name more than the one before. -/
theorem guardsBelow_eq (object : Json) (names : List String) :
    guardsBelow object names =
      (List.range names.length).map fun index => guard (chain object (names.take (index + 1))) := by
  induction names generalizing object with
  | nil => rfl
  | cons name rest ih =>
      rw [guardsBelow, ih, List.length_cons, List.range_succ_eq_map, List.map_cons, List.map_map]
      rfl

/-- Guards start from the global object, whatever is declared. -/
theorem guards_eq_map (scope : Scope) (path : NamespacePath) :
    scope.guards path = (List.range (path.segments.length - 1)).map fun index =>
      guard (chain scope.global (path.segments.take (index + 1))) := by
  have containersLength : path.segments.length - 1 = path.containers.length := by
    simp [NamespacePath.segments]
  rw [guards, guardsBelow_eq, containersLength]
  apply List.map_congr_left
  intro index inRange
  have short : index + 1 ≤ path.containers.length := by
    have := List.mem_range.mp inRange
    omega
  have sameTake : path.segments.take (index + 1) = path.containers.take (index + 1) :=
    List.take_append_of_le_length short
  rw [sameTake]

/-- The root that a path adds to the declared ones. -/
def newAlias? (scope : Scope) (path : NamespacePath) : Option String :=
  if path.isNested ∧ path.root ∉ scope.aliases then some path.root else none

/-- The scope after the root of a path is declared. -/
def withAlias (scope : Scope) (path : NamespacePath) : Scope :=
  { scope with aliases := scope.aliases ++ (scope.newAlias? path).toList }

theorem declareAlias_outcome (scope : Scope) (path : NamespacePath) :
    (scope.declareAlias path).outcome =
      .ok ((scope.newAlias? path).map scope.aliasStatement, scope.withAlias path) := by
  unfold declareAlias withAlias newAlias?
  by_cases isNested : path.isNested = true
  · by_cases declared : path.root ∈ scope.aliases
    · simp only [isNested, declared, List.contains_iff_mem, Bool.not_true, Bool.false_eq_true,
        not_true, and_false, if_false, if_true, Traced.outcome_bind, Traced.outcome_record,
        Traced.outcome_pure]
      simp [bind, Except.bind]
    · simp [isNested, declared]
  · simp [isNested]

theorem resolve_outcome (scope : Scope) (path : NamespacePath) :
    (scope.resolve path).outcome =
      .ok (scope.guards path ++ ((scope.newAlias? path).map scope.aliasStatement).toList,
        scope.withAlias path) := by
  simp only [resolve, Traced.outcome_bind, declareAlias_outcome, Traced.outcome_record,
    Traced.outcome_pure]
  rfl

/-- Declaring a root never takes another one away. -/
theorem mem_withAlias_of_mem {scope : Scope} {name : String} (declared : name ∈ scope.aliases)
    (path : NamespacePath) : name ∈ (scope.withAlias path).aliases :=
  List.mem_append_left _ declared

theorem root_mem_withAlias (scope : Scope) {path : NamespacePath}
    (isNested : path.isNested = true) : path.root ∈ (scope.withAlias path).aliases := by
  by_cases declared : path.root ∈ scope.aliases
  · exact mem_withAlias_of_mem declared path
  · apply List.mem_append_right
    simp [newAlias?, isNested, declared]

/-- How a program reaches a path whose root is declared, if it can be: through that constant. -/
def access (rootObject : String) : List String → Json
  | first :: second :: rest => chain (Node.identifier (.str first)) (second :: rest)
  | segments => chain (Node.identifier (.str rootObject)) segments

theorem accessor_of_declared {scope : Scope} {path : NamespacePath}
    (declared : path.isNested = true → path.root ∈ scope.aliases) :
    scope.accessor path = access scope.rootObject path.segments := by
  rcases path.segments_cases with
    ⟨notNested, segmentsAre, _⟩ | ⟨isNested, second, rest, segmentsAre⟩
  · simp [accessor, notNested, access, segmentsAre, global]
  · have isDeclared := declared isNested
    simp [accessor, isNested, isDeclared, NamespacePath.belowRoot, segmentsAre, access]

end Scope

theorem ClassShell.extend_some_outcome (shell : ClassShell) (scope : Scope)
    (path : NamespacePath) :
    (shell.extend scope (some path)).outcome =
      .ok ⟨{ shell with superClass := some ((scope.withAlias path).accessor path) },
        scope.withAlias path, ((scope.newAlias? path).map scope.aliasStatement).toList, []⟩ := by
  simp only [extend, Traced.outcome_bind, Scope.declareAlias_outcome, Traced.outcome_record,
    Traced.outcome_pure]
  rfl

end ClassLift

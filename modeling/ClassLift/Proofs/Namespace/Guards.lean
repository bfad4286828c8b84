import Mathlib.Data.List.Induction
import ClassLift.Proofs.Namespace.Constant
import ClassLift.Proofs.Namespace.Store

/-!
# What guards do to a store

The guards of a path are run over a store, as an engine runs them: a member is
read or written only of an object, the right side of `||` is evaluated only if
the left one is falsy, and `{}` makes a new object.

Guards come from the outermost container to the innermost. So each finds the
container before it in place, and either finds its own container too, which it
then leaves alone, or makes it. `Scope.guards_establish` puts these steps
together for paths of any length.
-/

namespace ClassLift

namespace Node

/-- The name of the member that a plain access selects. -/
def memberName? (node : Json) : Option String :=
  match node.field? "computed", node.field? "property" with
  | some (.bool false), some property =>
      match property.field? "name" with
      | some (.str name) => if hasType "Identifier" property then some name else none
      | _ => none
  | _, _ => none

/-- The location that a plain access from the global object names. -/
def location? (rootObject : String) (node : Json) : Option (List String) :=
  if node = identifier (.str rootObject) then some []
  else if hasType "MemberExpression" node then
    match _found : node.field? "object" with
    | some object => do
        let front ← location? rootObject object
        let name ← memberName? node
        return front ++ [name]
    | none => none
  else none
termination_by sizeOf node
decreasing_by exact Json.sizeOf_lt_of_field? _found

end Node

namespace Store

/-- The value of an expression, and the store after it is evaluated. -/
def evaluate (rootObject : String) (store : Store) (node : Json) : Option (Value × Store) :=
  if node = Node.identifier (.str rootObject) then some (store.root, store)
  else if Node.hasType "MemberExpression" node then
    match _found : node.field? "object" with
    | some object => do
        let (container, store) ← evaluate rootObject store object
        let name ← Node.memberName? node
        let value ← container.read? name
        return (value, store)
    | none => none
  else if Node.hasType "LogicalExpression" node && (node.field? "operator").any (·.isStr "||") then
    match _left : node.field? "left", _right : node.field? "right" with
    | some left, some right => do
        let (value, store) ← evaluate rootObject store left
        if value.isTruthy then return (value, store) else evaluate rootObject store right
    | _, _ => none
  else if node = Node.emptyObject then some store.makeObject
  else none
termination_by sizeOf node
decreasing_by
  · exact Json.sizeOf_lt_of_field? _found
  · exact Json.sizeOf_lt_of_field? _left
  · exact Json.sizeOf_lt_of_field? _right

/-- The store after a statement that assigns a value to a member. -/
def execute (rootObject : String) (store : Store) (statement : Json) : Option Store := do
  let expression ← statement.field? "expression"
  if Node.hasType "ExpressionStatement" statement &&
      Node.hasType "AssignmentExpression" expression &&
      (expression.field? "operator").any (·.isStr "=") then
    let target ← expression.field? "left"
    let right ← expression.field? "right"
    let location ← Node.location? rootObject target
    let (value, store) ← evaluate rootObject store right
    store.write? location value
  else none

/-- Runs statements one after the other. -/
def run (rootObject : String) (store : Store) (statements : List Json) : Option Store :=
  statements.foldlM (execute rootObject) store

end Store

/-! ## Accesses -/

namespace Scope

theorem chain_append_singleton (object : Json) (front : List String) (name : String) :
    chain object (front ++ [name]) = Node.dot (chain object front) (.str name) := by
  simp [chain, Node.memberChain]

theorem guardsBelow_append_singleton (object : Json) (front : List String) (name : String) :
    guardsBelow object (front ++ [name]) =
      guardsBelow object front ++ [guard (chain object (front ++ [name]))] := by
  induction front generalizing object with
  | nil => rfl
  | cons first rest ih =>
      rw [List.cons_append, guardsBelow, ih]
      rfl

theorem location?_chain (rootObject : String) (names : List String) :
    Node.location? rootObject (chain (Node.identifier (.str rootObject)) names) = some names := by
  induction names using List.reverseRecOn with
  | nil =>
      have isRoot : chain (Node.identifier (.str rootObject)) [] =
          Node.identifier (.str rootObject) := rfl
      rw [isRoot, Node.location?, if_pos rfl]
  | append_singleton front name ih =>
      have step : ∀ object, Node.location? rootObject (Node.dot object (.str name)) = (do
          let front ← Node.location? rootObject object
          return front ++ [name]) := by
        intro object
        rw [Node.location?]
        rfl
      rw [chain_append_singleton, step, ih]
      rfl

end Scope

namespace Value

theorem foldlM_read?_of_at? {value found : Value} {location : List String}
    (stands : value.at? location = some found) : location.foldlM read? value = some found := by
  induction location generalizing value with
  | nil => exact stands
  | cons name rest ih =>
      cases value with
      | scalar => simp at stands
      | object identity members =>
          rw [at?_object_cons, Option.bind_eq_some_iff] at stands
          rcases stands with ⟨inner, isMember, stands⟩
          simp [read?, isMember, ih stands]

end Value

namespace Store

section

variable (rootObject : String) {store : Store}

theorem evaluate_dot (object : Json) (name : String) :
    store.evaluate rootObject (Node.dot object (.str name)) = (do
      let (container, later) ← store.evaluate rootObject object
      let value ← container.read? name
      return (value, later)) := by
  rw [evaluate]
  rfl

theorem evaluate_logicalOr (left right : Json) :
    store.evaluate rootObject (Node.logicalOr left right) = (do
      let (value, later) ← store.evaluate rootObject left
      if value.isTruthy then return (value, later) else later.evaluate rootObject right) := by
  rw [evaluate]
  rfl

theorem evaluate_emptyObject :
    store.evaluate rootObject Node.emptyObject = some store.makeObject := by
  rw [evaluate]
  rfl

/-- An access from the global object reads one member after the other. -/
theorem evaluate_chain (names : List String) :
    store.evaluate rootObject (Scope.chain (Node.identifier (.str rootObject)) names) =
      (names.foldlM Value.read? store.root).map (·, store) := by
  induction names using List.reverseRecOn with
  | nil =>
      have isRoot : Scope.chain (Node.identifier (.str rootObject)) [] =
          Node.identifier (.str rootObject) := rfl
      rw [isRoot, evaluate, if_pos rfl]
      rfl
  | append_singleton front name ih =>
      rw [Scope.chain_append_singleton, evaluate_dot, ih, List.foldlM_append]
      cases front.foldlM Value.read? store.root with
      | none => rfl
      | some container =>
          simp only [Option.map_some, Option.bind_eq_bind, Option.bind_some, List.foldlM_cons,
            List.foldlM_nil]
          cases container.read? name <;> rfl

theorem evaluate_chain_of_at? {location : List String} {value : Value}
    (found : store.at? location = some value) :
    store.evaluate rootObject (Scope.chain (Node.identifier (.str rootObject)) location) =
      some (value, store) := by
  rw [evaluate_chain, Value.foldlM_read?_of_at? found]
  rfl

/-- A member of a container that is there can be read, even if the member is missing. -/
theorem evaluate_chain_of_hasObject {front : List String} (hasContainer : store.HasObject front)
    (name : String) :
    store.evaluate rootObject
        (Scope.chain (Node.identifier (.str rootObject)) (front ++ [name])) =
      some ((store.at? (front ++ [name])).getD .undefined, store) := by
  rcases hasContainer with ⟨identity, members, found⟩
  have found : store.root.at? front = some (.object identity members) := found
  rw [evaluate_chain, List.foldlM_append, Value.foldlM_read?_of_at? found, at?,
    Value.at?_append, found]
  simp only [Option.bind_eq_bind, Option.bind_some, List.foldlM_cons, List.foldlM_nil,
    Value.read?, Value.at?_object_cons]
  cases members.lookup name <;> rfl

/-! ## One guard -/

theorem execute_guard {front : List String} (hasContainer : store.HasObject front)
    (name : String) :
    store.execute rootObject
        (Scope.guard (Scope.chain (Node.identifier (.str rootObject)) (front ++ [name]))) =
      if ((store.at? (front ++ [name])).getD .undefined).isTruthy then
        store.write? (front ++ [name]) ((store.at? (front ++ [name])).getD .undefined)
      else store.makeObject.2.write? (front ++ [name]) store.makeObject.1 := by
  have unfolds : ∀ target, store.execute rootObject (Scope.guard target) = (do
      let location ← Node.location? rootObject target
      let (value, later) ← store.evaluate rootObject (Node.logicalOr target Node.emptyObject)
      later.write? location value) := fun _ => rfl
  rw [unfolds, Scope.location?_chain, evaluate_logicalOr,
    evaluate_chain_of_hasObject rootObject hasContainer]
  simp only [Option.bind_eq_bind, Option.bind_some]
  split
  · rfl
  · rw [evaluate_emptyObject]
    rfl

/-- What one guard does: the container at its location is there, and nothing else changes. -/
structure Establishes (store : Store) (location : List String) (after : Store) : Prop where
  exists_ : after.HasObject location
  kept : ∀ other, (other = location → ¬store.IsVacant other) →
    after.contentAt other = store.contentAt other
  made : store.IsVacant location → after.contentAt location = some (.object store.fresh)
  grows : store.fresh ≤ after.fresh

/-- A container that is there is left alone. -/
theorem execute_guard_of_hasObject {front : List String} {name : String}
    (hasContainer : store.HasObject front) (hasObject : store.HasObject (front ++ [name])) :
    store.execute rootObject
        (Scope.guard (Scope.chain (Node.identifier (.str rootObject)) (front ++ [name]))) =
      some store := by
  rcases hasObject with ⟨identity, members, found⟩
  rw [execute_guard rootObject hasContainer, found, Option.getD_some, if_pos (by rfl), write?]
  have writesBack : store.root.put? (front ++ [name]) (.object identity members) =
      some store.root := Value.put?_eq_self found
  rw [writesBack]
  rfl

theorem execute_guard_of_isVacant {front : List String} {name : String}
    (hasContainer : store.HasObject front) (isVacant : store.IsVacant (front ++ [name])) :
    ∃ after, store.execute rootObject
        (Scope.guard (Scope.chain (Node.identifier (.str rootObject)) (front ++ [name]))) =
          some after ∧ store.Establishes (front ++ [name]) after := by
  have isFalsy : ((store.at? (front ++ [name])).getD .undefined).isTruthy = false := by
    cases found : store.at? (front ++ [name]) with
    | none => rfl
    | some value => exact isVacant value found
  have executes := execute_guard rootObject hasContainer name
  rw [isFalsy] at executes
  rcases hasContainer with ⟨identity, members, found⟩
  have found : store.makeObject.2.root.at? front = some (.object identity members) := found
  rcases Value.exists_put? found store.makeObject.1 name with ⟨changed, puts⟩
  rcases write?_of_put? (by simp) puts with ⟨after, writes, rootIs, freshIs⟩
  have madeIs : after.at? (front ++ [name]) = some (.object store.fresh []) := by
    rw [at?, rootIs]
    exact Value.at?_put? puts
  refine ⟨after, executes.trans writes, ⟨_, _, madeIs⟩, ?_, ?_, ?_⟩
  · intro other notHere
    have notHere : other ≠ front ++ [name] := fun same => notHere same (same ▸ isVacant)
    by_cases isBelow : front ++ [name] <+: other
    · -- Neither what was vacant nor the new object has members.
      rcases isBelow with ⟨_ | ⟨first, rest⟩, rfl⟩
      · simp at notHere
      · have nothingBefore := at?_below_of_isVacant isVacant first rest
        have nothingAfter : after.at? (front ++ [name] ++ first :: rest) = none := by
          rw [at?, Value.at?_append, ← at?, madeIs]
          rfl
        rw [contentAt, contentAt, nothingBefore, nothingAfter]
    · rw [contentAt, at?, rootIs]
      exact Value.content_at?_put? puts isBelow
  · intro _
    rw [contentAt, madeIs]
    rfl
  · rw [freshIs]
    exact Nat.le_succ store.fresh

theorem exists_execute_guard {front : List String} {name : String}
    (hasContainer : store.HasObject front)
    (guardable : store.HasObject (front ++ [name]) ∨ store.IsVacant (front ++ [name])) :
    ∃ after, store.execute rootObject
        (Scope.guard (Scope.chain (Node.identifier (.str rootObject)) (front ++ [name]))) =
          some after ∧ store.Establishes (front ++ [name]) after := by
  rcases guardable with hasObject | isVacant
  · refine ⟨store, execute_guard_of_hasObject rootObject hasContainer hasObject, hasObject, ?_,
      ?_, Nat.le_refl _⟩
    · intro _ _
      rfl
    · intro isVacant
      exact absurd isVacant (not_isVacant_of_hasObject hasObject)
  · exact execute_guard_of_isVacant rootObject hasContainer isVacant

/-! ## All guards of a path -/

/-- What the guards of a chain of containers leave of a store. -/
structure EstablishesAll (store : Store) (names : List String) (after : Store) : Prop where
  containersExist : ∀ location, location <+: names → after.HasObject location
  othersKept : ∀ location, (location <+: names → ¬store.IsVacant location) →
    after.contentAt location = store.contentAt location
  madeNew : ∀ location, location <+: names → store.IsVacant location →
    ∃ identity, store.fresh ≤ identity ∧ after.contentAt location = some (.object identity)
  grows : store.fresh ≤ after.fresh

theorem not_concat_isPrefix (front : List String) (name : String) : ¬front ++ [name] <+: front := by
  intro isPrefix
  have isShort := isPrefix.length_le
  simp only [List.length_append, List.length_singleton] at isShort
  omega

/-- What stands inside the last container is as it was before the guards. -/
theorem EstablishesAll.keptInside {front : List String} {middle : Store}
    (soFar : store.EstablishesAll front middle) (name : String) :
    middle.contentAt (front ++ [name]) = store.contentAt (front ++ [name]) :=
  soFar.othersKept _ fun isPrefix => absurd isPrefix (not_concat_isPrefix front name)

theorem run_append_singleton (front : List Json) (statement : Json) :
    store.run rootObject (front ++ [statement]) =
      (store.run rootObject front).bind (execute rootObject · statement) := by
  rw [run, run, List.foldlM_append]
  cases front.foldlM (execute rootObject) store with
  | none => rfl
  | some after => simp

theorem hasObject_congr {after : Store} {location : List String}
    (same : after.contentAt location = store.contentAt location) :
    after.HasObject location ↔ store.HasObject location := by
  rw [hasObject_iff_contentAt, hasObject_iff_contentAt, same]

/-- One more guard, for a container inside the last one that is established. -/
theorem EstablishesAll.step {front : List String} {name : String} {middle after : Store}
    (soFar : store.EstablishesAll front middle)
    (establishes : middle.Establishes (front ++ [name]) after) :
    store.EstablishesAll (front ++ [name]) after := by
  have keptHere := soFar.keptInside name
  have keptBefore : ∀ location, location <+: front →
      after.contentAt location = middle.contentAt location := by
    intro location isPrefix
    apply establishes.kept
    rintro rfl
    exact absurd isPrefix (not_concat_isPrefix front name)
  refine ⟨?_, ?_, ?_, Nat.le_trans soFar.grows establishes.grows⟩
  · intro location isPrefix
    rcases List.prefix_concat_iff.mp isPrefix with rfl | isPrefix
    · exact establishes.exists_
    · rw [hasObject_congr (keptBefore location isPrefix)]
      exact soFar.containersExist location isPrefix
  · intro location notVacant
    have keptLast : after.contentAt location = middle.contentAt location := by
      apply establishes.kept
      rintro rfl
      rw [isVacant_congr keptHere]
      exact notVacant (List.prefix_rfl)
    have keptSoFar : middle.contentAt location = store.contentAt location := by
      apply soFar.othersKept
      intro isPrefix
      exact notVacant (isPrefix.trans (List.prefix_append front [name]))
    rw [keptLast, keptSoFar]
  · intro location isPrefix isVacant
    rcases List.prefix_concat_iff.mp isPrefix with rfl | isPrefix
    · exact ⟨middle.fresh, soFar.grows, establishes.made ((isVacant_congr keptHere).mpr isVacant)⟩
    · rw [keptBefore location isPrefix]
      exact soFar.madeNew location isPrefix isVacant

/-- Guards establish their containers one after the other, from the outermost on. -/
theorem exists_run_guardsBelow {names : List String}
    (guardable : ∀ location, location <+: names →
      store.HasObject location ∨ store.IsVacant location) :
    ∃ after, store.run rootObject
        (Scope.guardsBelow (Node.identifier (.str rootObject)) names) = some after ∧
      store.EstablishesAll names after := by
  induction names using List.reverseRecOn with
  | nil =>
      refine ⟨store, rfl, ?_, ?_, ?_, Nat.le_refl _⟩
      · intro location isPrefix
        rw [List.prefix_nil.mp isPrefix]
        exact store.hasObject_nil
      · intro location _
        rfl
      · intro location isPrefix isVacant
        rw [List.prefix_nil.mp isPrefix] at isVacant
        exact absurd isVacant (not_isVacant_of_hasObject store.hasObject_nil)
  | append_singleton front name ih =>
      rcases ih fun location isPrefix =>
        guardable location (isPrefix.trans (List.prefix_append front [name])) with
        ⟨middle, runs, soFar⟩
      have keptHere := soFar.keptInside name
      have guardableHere : middle.HasObject (front ++ [name]) ∨
          middle.IsVacant (front ++ [name]) := by
        rw [hasObject_congr keptHere, isVacant_congr keptHere]
        exact guardable _ List.prefix_rfl
      have hasContainer := soFar.containersExist front List.prefix_rfl
      rcases exists_execute_guard rootObject hasContainer guardableHere with
        ⟨after, executes, establishes⟩
      refine ⟨after, ?_, soFar.step establishes⟩
      rw [Scope.guardsBelow_append_singleton, run_append_singleton, runs]
      exact executes

/-- Where all containers are there, their guards change nothing. -/
theorem run_guardsBelow_of_hasObject {names : List String}
    (containersExist : ∀ location, location <+: names → store.HasObject location) :
    store.run rootObject (Scope.guardsBelow (Node.identifier (.str rootObject)) names) =
      some store := by
  induction names using List.reverseRecOn with
  | nil => rfl
  | append_singleton front name ih =>
      have runs := ih fun location isPrefix =>
        containersExist location (isPrefix.trans (List.prefix_append front [name]))
      rw [Scope.guardsBelow_append_singleton, run_append_singleton, runs]
      exact execute_guard_of_hasObject rootObject
        (containersExist front (List.prefix_append front [name]))
        (containersExist _ List.prefix_rfl)

end

end Store

namespace Scope

/-- The target of a class, with the member of the global object in place of its constant. -/
def expandedTarget (scope : Scope) (path : NamespacePath) : Json :=
  let target := (ClassShell.ofPath scope path).target
  if path.isNested then
    Node.expandBase path.root (Node.dot scope.global (.str path.root)) target
  else target

theorem expandedTarget_withAlias (scope : Scope) (path : NamespacePath) :
    (scope.withAlias path).expandedTarget path =
      Node.dot (chain scope.global path.containers) (.str path.className) := by
  have targetIs : (ClassShell.ofPath (scope.withAlias path) path).target =
      access scope.rootObject path.segments :=
    accessor_of_declared (root_mem_withAlias scope)
  have expanded : (scope.withAlias path).expandedTarget path =
      chain scope.global path.segments := by
    rw [expandedTarget, targetIs]
    rcases path.segments_cases with
      ⟨notNested, segmentsAre, _⟩ | ⟨isNested, second, rest, segmentsAre⟩
    · simp [notNested, segmentsAre, access, global]
    · simp only [isNested, segmentsAre, access, if_true]
      exact expandBase_chain_identifier scope.rootObject path.root (second :: rest)
  rw [expanded, NamespacePath.segments, chain_append_singleton]

/--
What the guards of a path come to in a store: they run to their end, so they
never touch a member of a missing container; they establish the containers, the
last of which holds the class; and run once more, for this path or another one
in the same containers, they do nothing.
-/
structure GuardsEstablish (scope : Scope) (path : NamespacePath) (store after : Store) :
    Prop where
  runs : store.run scope.rootObject (scope.guards path) = some after
  establishes : store.EstablishesAll path.containers after
  parentExists : ∀ statements later, (scope.resolve path).outcome = .ok (statements, later) →
    ∃ parent identity members, (later.expandedTarget path).field? "object" = some parent ∧
      after.evaluate scope.rootObject parent = some (.object identity members, after)
  runsAgain : ∀ other : NamespacePath, other.containers = path.containers →
    after.run scope.rootObject (scope.guards other) = some after

/--
Guards establish the containers of a path in every store that has objects or
nothing in their places, and leave everything else as it is.
-/
theorem guards_establish (scope : Scope) {path : NamespacePath} {store : Store}
    (guardable : ∀ location, location <+: path.containers →
      store.HasObject location ∨ store.IsVacant location) :
    ∃ after, scope.GuardsEstablish path store after := by
  rcases Store.exists_run_guardsBelow scope.rootObject guardable with
    ⟨after, runs, establishes⟩
  refine ⟨after, runs, establishes, ?_, ?_⟩
  · intro statements later resolves
    rw [resolve_outcome, Except.ok.injEq, Prod.mk.injEq] at resolves
    rcases establishes.containersExist path.containers List.prefix_rfl with
      ⟨identity, members, found⟩
    refine ⟨chain scope.global path.containers, identity, members, ?_, ?_⟩
    · rw [← resolves.2, expandedTarget_withAlias]
      rfl
    · exact Store.evaluate_chain_of_at? scope.rootObject found
  · intro other sameContainers
    rw [guards, sameContainers]
    exact Store.run_guardsBelow_of_hasObject scope.rootObject establishes.containersExist

/-- A path with three containers: the first is there in the sample, the second is null. -/
def samplePath : NamespacePath :=
  ⟨["app", "ui", "forms"], "field"⟩

def sampleStore : Store where
  identity := 0
  members := [("app", .object 1 [("version", .scalar (.text "3")), ("ui", .scalar .null)])]
  fresh := 2

theorem guards_establish_sampleStore :
    (∀ location, location <+: samplePath.containers →
      sampleStore.HasObject location ∨ sampleStore.IsVacant location) ∧
    ∃ after, GuardsEstablish ⟨"window", []⟩ samplePath sampleStore after ∧
      after.contentAt ["app"] = some (.object 1) ∧
      after.contentAt ["app", "version"] = some (.scalar (.text "3")) := by
  have hasApp : sampleStore.HasObject ["app"] := ⟨_, _, rfl⟩
  have guardable : ∀ location, location <+: samplePath.containers →
      sampleStore.HasObject location ∨ sampleStore.IsVacant location := by
    intro location isPrefix
    simp only [samplePath, List.prefix_cons_iff, List.prefix_nil] at isPrefix
    rcases isPrefix with rfl | ⟨_, rfl, rfl | ⟨_, rfl, rfl | ⟨_, rfl, rfl⟩⟩⟩
    · exact .inl sampleStore.hasObject_nil
    · exact .inl hasApp
    · exact .inr fun _ found => by rw [← Option.some.inj found]; rfl
    · exact .inr fun _ found => nomatch found
  rcases guards_establish ⟨"window", []⟩ guardable with ⟨after, establishes⟩
  refine ⟨guardable, after, establishes, ?_, ?_⟩
  · exact establishes.establishes.othersKept _ fun _ => Store.not_isVacant_of_hasObject hasApp
  · exact establishes.establishes.othersKept _ fun isPrefix => absurd isPrefix (by decide)

end Scope

end ClassLift

import ClassLift.Proofs.Conversion.Paths
import ClassLift.Proofs.Namespace.Store

/-!
# A member of the global object and the constant of its name

A run of generated statements is watched from one side: what a member of the
global object is, and what the constant of that name has recorded of it. The
name of the global object stands for that object. The member changes when it is
assigned itself, by a guard or a class; assignments further down leave it alone.

A constant that has recorded an object is current as long as the member is not
assigned anything but its guard, and from then on it is stale. Since new objects
are newer than all others, it never becomes current again.
-/

namespace ClassLift

/-- The names from which a statement reaches what it assigns and what its class extends. -/
def Node.bases (statement : Json) : List String :=
  ((assigned? statement).toList ++ (superclass? statement).toList).filterMap baseName?

namespace Layout

/-- The member of the global object that a constant is declared for. -/
def globalMember (rootObject name : String) : Json :=
  Node.dot (Node.identifier (.str rootObject)) (.str name)

theorem constant_ne_assignmentStatement (rootObject name : String) (left right : Json) :
    constant rootObject name ≠ Node.assignmentStatement left right :=
  Node.constDeclaration_ne_assignmentStatement _ _ _ _

/-- Whether a statement assigns that member anything but what its guard does. -/
def Reassigns (rootObject name : String) (statement : Json) : Prop :=
  Node.assigned? statement = some (globalMember rootObject name) ∧
    statement ≠ Scope.guard (globalMember rootObject name)

end Layout

namespace Content

def isTruthy : Content → Bool
  | .scalar value => value.isTruthy
  | .object _ => true

def isObject : Content → Bool
  | .scalar _ => false
  | .object _ => true

theorem isObject_iff {content : Content} :
    content.isObject = true ↔ ∃ identity, content = .object identity := by
  cases content with
  | scalar value => simp [isObject]
  | object identity => simp [isObject]

end Content

/--
A member of the global object, what the constant of that name has recorded of it,
and the identity of the next new object, which neither of them has.
-/
structure Watch where
  member : Content
  constant? : Option Content
  fresh : Nat
  memberKnown : ∀ identity, member = .object identity → identity < fresh
  constantKnown : ∀ identity, constant? = some (.object identity) → identity < fresh

namespace Watch

def record (watch : Watch) : Watch where
  member := watch.member
  constant? := some watch.member
  fresh := watch.fresh
  memberKnown := watch.memberKnown
  constantKnown := fun identity recorded => watch.memberKnown identity (Option.some.inj recorded)

/-- The member becomes a new object. -/
def replace (watch : Watch) : Watch where
  member := .object watch.fresh
  constant? := watch.constant?
  fresh := watch.fresh + 1
  memberKnown := by
    rintro identity ⟨⟩
    exact Nat.lt_succ_self watch.fresh
  constantKnown := fun identity recorded =>
    Nat.lt_succ_of_lt (watch.constantKnown identity recorded)

/-- Whether the constant and the member are the same. -/
def IsCurrent (watch : Watch) : Prop :=
  watch.constant? = some watch.member

/-- Whether the member is a newer object than the constant. -/
def IsStale (watch : Watch) : Prop :=
  ∃ old new, watch.constant? = some (.object old) ∧ watch.member = .object new ∧ old < new

/--
Executes a statement, as far as the member and the constant are concerned. A use of
the constant fails before it is declared, and if it is no object. A guard leaves
alone what is truthy. A class is a new object, and so is the container that a guard
makes.
-/
def step (rootObject name : String) (watch : Watch) (statement : Json) : Option Watch :=
  if name ∈ Node.bases statement ∧ watch.constant?.any Content.isObject = false then none
  else if statement = Layout.constant rootObject name then some watch.record
  else if Node.assigned? statement = some (Layout.globalMember rootObject name) then
    if statement = Scope.guard (Layout.globalMember rootObject name) ∧
        watch.member.isTruthy = true then some watch
    else some watch.replace
  else some watch

def run (rootObject name : String) (watch : Watch) (statements : List Json) : Option Watch :=
  statements.foldlM (step rootObject name) watch

section

variable {rootObject name : String} {watch after : Watch} {statement : Json}

/-- A use of the constant needs an object. -/
theorem exists_object_of_step (steps : watch.step rootObject name statement = some after)
    (uses : name ∈ Node.bases statement) :
    ∃ identity, watch.constant? = some (.object identity) := by
  unfold step at steps
  split at steps
  · simp at steps
  · rename_i goesOn
    have isObject : watch.constant?.any Content.isObject = true := by
      simpa [uses] using goesOn
    cases recorded : watch.constant? with
    | none => simp [recorded] at isObject
    | some content =>
        rw [recorded, Option.any_some, Content.isObject_iff] at isObject
        rcases isObject with ⟨identity, rfl⟩
        exact ⟨identity, rfl⟩

/-- Everything that a statement other than the declaration can do. -/
theorem step_cases (steps : watch.step rootObject name statement = some after)
    (notDeclared : statement ≠ Layout.constant rootObject name) :
    (Layout.Reassigns rootObject name statement ∧ after = watch.replace) ∨
      (¬Layout.Reassigns rootObject name statement ∧
        (after = watch ∨ (watch.member.isTruthy = false ∧ after = watch.replace))) := by
  rw [step, if_neg notDeclared] at steps
  split at steps
  · simp at steps
  by_cases isAssigned : Node.assigned? statement = some (Layout.globalMember rootObject name)
  · rw [if_pos isAssigned] at steps
    by_cases isGuard : statement = Scope.guard (Layout.globalMember rootObject name)
    · refine .inr ⟨fun reassigns => reassigns.2 isGuard, ?_⟩
      cases isTruthy : watch.member.isTruthy with
      | true =>
          rw [if_pos ⟨isGuard, isTruthy⟩, Option.some.injEq] at steps
          exact .inl steps.symm
      | false =>
          rw [if_neg (by simp [isTruthy]), Option.some.injEq] at steps
          exact .inr ⟨rfl, steps.symm⟩
    · rw [if_neg fun isGuardOnTruthy => isGuard isGuardOnTruthy.1, Option.some.injEq] at steps
      exact .inl ⟨⟨isAssigned, isGuard⟩, steps.symm⟩
  · rw [if_neg isAssigned, Option.some.injEq] at steps
    exact .inr ⟨fun reassigns => isAssigned reassigns.1, .inl steps.symm⟩

theorem step_constant (watch : Watch) :
    watch.step rootObject name (Layout.constant rootObject name) = some watch.record := by
  have usesNothing : Node.bases (Layout.constant rootObject name) = [] := rfl
  simp [step, usesNothing]

theorem run_append (front back : List Json) :
    watch.run rootObject name (front ++ back) =
      (watch.run rootObject name front).bind (·.run rootObject name back) :=
  List.foldlM_append

theorem run_cons (statement : Json) (rest : List Json) :
    watch.run rootObject name (statement :: rest) =
      (watch.step rootObject name statement).bind (·.run rootObject name rest) :=
  rfl

theorem step_guard (differ : name ≠ rootObject) (watch : Watch) :
    watch.step rootObject name (Scope.guard (Layout.globalMember rootObject name)) =
      some (if watch.member.isTruthy = true then watch else watch.replace) := by
  have usesRoot : Node.bases (Scope.guard (Layout.globalMember rootObject name)) =
      [rootObject] := by
    have basesAre : Node.bases (Scope.guard (Layout.globalMember rootObject name)) =
        [Layout.globalMember rootObject name].filterMap Node.baseName? := rfl
    rw [basesAre]
    simp [Layout.globalMember, Node.dot]
  have notUsed : ¬(name ∈ Node.bases (Scope.guard (Layout.globalMember rootObject name)) ∧
      watch.constant?.any Content.isObject = false) := by
    simp [usesRoot, differ]
  have notDeclared : Scope.guard (Layout.globalMember rootObject name) ≠
      Layout.constant rootObject name :=
    (Layout.constant_ne_assignmentStatement rootObject name _ _).symm
  have isAssigned : Node.assigned? (Scope.guard (Layout.globalMember rootObject name)) =
      some (Layout.globalMember rootObject name) := rfl
  rw [step, if_neg notUsed, if_neg notDeclared, if_pos isAssigned]
  by_cases isTruthy : watch.member.isTruthy = true
  · rw [if_pos ⟨rfl, isTruthy⟩, if_pos isTruthy]
  · rw [if_neg fun isGuardOnTruthy => isTruthy isGuardOnTruthy.2, if_neg isTruthy]

/-- Where the constant has recorded an object, no use of it fails. -/
theorem exists_step {identity : Nat} (recorded : watch.constant? = some (.object identity))
    (statement : Json) : ∃ after, watch.step rootObject name statement = some after := by
  have usable : ¬(name ∈ Node.bases statement ∧
      watch.constant?.any Content.isObject = false) := by
    simp [recorded, Content.isObject]
  rw [step, if_neg usable]
  split
  · exact ⟨_, rfl⟩
  · split
    · split
      · exact ⟨_, rfl⟩
      · exact ⟨_, rfl⟩
    · exact ⟨_, rfl⟩

/-- Only the declaration changes the constant. -/
theorem step_constant? (steps : watch.step rootObject name statement = some after)
    (notDeclared : statement ≠ Layout.constant rootObject name) :
    after.constant? = watch.constant? := by
  rcases step_cases steps notDeclared with ⟨_, rfl⟩ | ⟨_, rfl | ⟨_, rfl⟩⟩
  · rfl
  · rfl
  · rfl

/-- A constant that records an object stays current unless the member is reassigned. -/
theorem IsCurrent.step {identity : Nat} (isCurrent : watch.IsCurrent)
    (recorded : watch.constant? = some (.object identity))
    (steps : watch.step rootObject name statement = some after)
    (notDeclared : statement ≠ Layout.constant rootObject name)
    (stays : ¬Layout.Reassigns rootObject name statement) : after.IsCurrent := by
  rcases step_cases steps notDeclared with ⟨reassigns, _⟩ | ⟨_, rfl | ⟨isFalsy, _⟩⟩
  · exact absurd reassigns stays
  · exact isCurrent
  · have memberIs : watch.member = .object identity :=
      Option.some.inj (isCurrent.symm.trans recorded)
    simp [memberIs, Content.isTruthy] at isFalsy

theorem isStale_replace {identity : Nat} (recorded : watch.constant? = some (.object identity)) :
    watch.replace.IsStale :=
  ⟨identity, watch.fresh, recorded, rfl, watch.constantKnown identity recorded⟩

/-- A constant that is stale stays so, since no member is ever restored. -/
theorem IsStale.step (isStale : watch.IsStale)
    (steps : watch.step rootObject name statement = some after)
    (notDeclared : statement ≠ Layout.constant rootObject name) : after.IsStale := by
  rcases isStale with ⟨old, new, recorded, memberIs, isNewer⟩
  rcases step_cases steps notDeclared with ⟨_, rfl⟩ | ⟨_, rfl | ⟨_, rfl⟩⟩
  · exact isStale_replace recorded
  · exact ⟨old, new, recorded, memberIs, isNewer⟩
  · exact isStale_replace recorded

theorem IsStale.not_isCurrent (isStale : watch.IsStale) : ¬watch.IsCurrent := by
  rcases isStale with ⟨old, new, recorded, memberIs, isNewer⟩
  intro isCurrent
  rw [IsCurrent, recorded, memberIs, Option.some.injEq, Content.object.injEq] at isCurrent
  omega

variable {statements : List Json}
  (runs : watch.run rootObject name statements = some after)
  (notDeclared : Layout.constant rootObject name ∉ statements)
include runs notDeclared

/-- What every statement but the declaration keeps, a run without the declaration keeps. -/
theorem run_induction (Kept : Watch → Prop) (holds : Kept watch)
    (step : ∀ statement ∈ statements, statement ≠ Layout.constant rootObject name →
      ∀ before after, before.step rootObject name statement = some after → Kept before →
        Kept after) : Kept after := by
  induction statements generalizing watch with
  | nil =>
      obtain rfl : watch = after := by simpa [run] using runs
      exact holds
  | cons statement rest ih =>
      rw [run_cons, Option.bind_eq_some_iff] at runs
      rcases runs with ⟨middle, steps, runs⟩
      rw [List.mem_cons, not_or] at notDeclared
      rcases List.forall_mem_cons.mp step with ⟨stepHere, stepLater⟩
      exact ih runs notDeclared.2
        (stepHere (Ne.symm notDeclared.1) watch middle steps holds) stepLater

theorem run_constant? : after.constant? = watch.constant? := by
  refine run_induction runs notDeclared (·.constant? = watch.constant?) rfl ?_
  intro statement _ notDeclaration before after steps same
  rw [step_constant? steps notDeclaration, same]

theorem IsCurrent.run {identity : Nat} (isCurrent : watch.IsCurrent)
    (recorded : watch.constant? = some (.object identity))
    (stays : ∀ statement ∈ statements, ¬Layout.Reassigns rootObject name statement) :
    after.IsCurrent := by
  have kept : after.IsCurrent ∧ after.constant? = some (.object identity) := by
    refine run_induction runs notDeclared
      (fun other => other.IsCurrent ∧ other.constant? = some (.object identity))
      ⟨isCurrent, recorded⟩ ?_
    rintro statement isBetween notDeclaration before after steps ⟨isCurrent, recorded⟩
    exact ⟨isCurrent.step recorded steps notDeclaration (stays statement isBetween),
      (step_constant? steps notDeclaration).trans recorded⟩
  exact kept.1

theorem IsStale.run (isStale : watch.IsStale) : after.IsStale := by
  refine run_induction runs notDeclared IsStale isStale ?_
  intro statement _ notDeclaration before after steps isStale
  exact isStale.step steps notDeclaration

/-- A constant that records an object is stale as soon as the member is reassigned. -/
theorem isStale_of_reassigns {identity : Nat}
    (recorded : watch.constant? = some (.object identity))
    (reassigned : ∃ statement ∈ statements, Layout.Reassigns rootObject name statement) :
    after.IsStale := by
  rcases reassigned with ⟨statement, isBetween, reassigns⟩
  rcases List.append_of_mem isBetween with ⟨earlier, later, rfl⟩
  rw [run_append, Option.bind_eq_some_iff] at runs
  rcases runs with ⟨before, runsEarlier, runs⟩
  rw [run_cons, Option.bind_eq_some_iff] at runs
  rcases runs with ⟨middle, steps, runsLater⟩
  simp only [List.mem_append, List.mem_cons, not_or] at notDeclared
  rcases notDeclared with ⟨notEarlier, notHere, notLater⟩
  have recordedStill := (run_constant? runsEarlier notEarlier).trans recorded
  rcases step_cases steps (Ne.symm notHere) with ⟨_, rfl⟩ | ⟨stays, _⟩
  · exact (isStale_replace recordedStill).run runsLater notLater
  · exact absurd reassigns stays

omit runs in
theorem exists_run {identity : Nat} (recorded : watch.constant? = some (.object identity)) :
    ∃ after, watch.run rootObject name statements = some after := by
  induction statements generalizing watch with
  | nil => exact ⟨watch, rfl⟩
  | cons statement rest ih =>
      rw [List.mem_cons, not_or] at notDeclared
      rcases exists_step recorded statement with ⟨middle, steps⟩
      have recordedStill := (step_constant? steps (Ne.symm notDeclared.1)).trans recorded
      rcases ih notDeclared.2 recordedStill with ⟨after, runs⟩
      exact ⟨after, by rw [run_cons, steps, Option.bind_some, runs]⟩

end

/-- A use is reached if there is an object when the constant is declared. -/
theorem exists_use_of_object {rootObject name : String} {start declaring : Watch}
    {front between : List Json} {identity : Nat}
    (notAgain : Layout.constant rootObject name ∉ between)
    (runs : start.run rootObject name front = some declaring)
    (isObject : declaring.member = .object identity) (use : Json) :
    ∃ before after, start.run rootObject name
        (front ++ Layout.constant rootObject name :: between) = some before ∧
      before.step rootObject name use = some after := by
  have recorded : declaring.record.constant? = some (.object identity) := congrArg some isObject
  rcases exists_run notAgain recorded with ⟨before, runsBetween⟩
  have recordedStill := (run_constant? runsBetween notAgain).trans recorded
  rcases exists_step recordedStill use with ⟨after, steps⟩
  refine ⟨before, after, ?_, steps⟩
  rw [run_append, runs, Option.bind_some, run_cons, step_constant, Option.bind_some, runsBetween]

/-- Where a use of a constant is reached, the constant is current unless it was reassigned. -/
theorem isCurrent_iff {rootObject name : String} {start before after : Watch}
    {front between : List Json} {use : Json}
    (notAgain : Layout.constant rootObject name ∉ between)
    (runs : start.run rootObject name
      (front ++ Layout.constant rootObject name :: between) = some before)
    (steps : before.step rootObject name use = some after) (uses : name ∈ Node.bases use) :
    before.IsCurrent ↔
      ¬∃ statement ∈ between, Layout.Reassigns rootObject name statement := by
  rw [run_append, Option.bind_eq_some_iff] at runs
  rcases runs with ⟨declaring, _, runs⟩
  rw [run_cons, step_constant, Option.bind_some] at runs
  -- The use needs an object, and the constant has not changed since its declaration.
  rcases exists_object_of_step steps uses with ⟨identity, isObject⟩
  have recorded : declaring.record.constant? = some (.object identity) :=
    (run_constant? runs notAgain).symm.trans isObject
  constructor
  · intro isCurrent reassigned
    exact (isStale_of_reassigns runs notAgain recorded reassigned).not_isCurrent isCurrent
  · intro notReassigned
    have isCurrent : declaring.record.IsCurrent := rfl
    refine isCurrent.run runs notAgain recorded ?_
    intro statement isBetween reassigns
    exact notReassigned ⟨statement, isBetween, reassigns⟩

end Watch

end ClassLift

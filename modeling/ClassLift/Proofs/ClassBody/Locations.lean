import ClassLift.Proofs.ClassBody.Addition
import ClassLift.Proofs.Member.Locations

/-!
# Class bodies without locations

What the members of a table become in a class body is generated around copies of
their keys, values and functions. Stripping the locations of the table first and
stripping those of the class body afterwards therefore comes to the same, also
where adding the members fails.
-/

namespace ClassLift

open Json (stripLocations)

namespace Node

theorem stripLocations_copiedFunction {function : Json} (plain : hasPlainFlags function = true) :
    (copiedFunction function).stripLocations = copiedFunction function.stripLocations := by
  have samePart : ∀ key, Json.isLocationKey key = false →
      ((function.field? key).getD .null).stripLocations =
        (function.stripLocations.field? key).getD .null := by
    intro key kept
    rw [Json.field?_stripLocations kept]
    cases function.field? key <;> rfl
  have sameFlag : ∀ flag ∈ ["generator", "async", "expression"], Json.isLocationKey flag = false →
      ((function.stripLocations.field? flag).getD .null).isTruthy =
        ((function.field? flag).getD .null).isTruthy := by
    intro flag isFlag kept
    rw [Json.field?_stripLocations kept]
    exact Json.isTruthy_of_isPlainFlag (List.all_eq_true.mp plain flag isFlag)
  simp only [copiedFunction, stripLocations_functionExpression, Json.stripLocations_bool]
  rw [samePart "params" rfl, samePart "body" rfl, samePart "id" rfl,
    sameFlag "generator" (by simp) rfl, sameFlag "async" (by simp) rfl,
    sameFlag "expression" (by simp) rfl]

theorem propertyAccess_stripsTo (object key : Json) (computed : Bool) :
    StripsTo (·.stripLocations = ·) (propertyAccess object key (.bool computed))
      (propertyAccess object.stripLocations key.stripLocations (.bool computed)) := by
  unfold propertyAccess
  split
  · exact .succeeds (stripLocations_member object key (.bool computed))
  · apply (Json.field_stripsTo "type" rfl key).bind
    rintro type _ _ rfl
    rw [Json.isStr_stripLocations]
    apply StripsTo.succeeds
    cases type.isStr "Literal" <;> simp

theorem constructorStatements_stripsTo (node : Json) :
    StripsTo (·.stripLocations = ·) (constructorStatements node)
      (constructorStatements node.stripLocations) := by
  apply (Json.required_stripsTo "value" rfl node).bind
  rintro function _ _ rfl
  apply (Json.required_stripsTo "body" rfl function).bind
  rintro block _ _ rfl
  exact Json.required_stripsTo "body" rfl block

theorem stripLocations_withConstructorStatements (node : Json) (statements : List Json) :
    (withConstructorStatements node statements).stripLocations =
      withConstructorStatements node.stripLocations (statements.map stripLocations) := by
  apply Json.stripLocations_update rfl
  intro function
  apply Json.stripLocations_update rfl
  intro block
  apply Json.stripLocations_update rfl
  intro _
  exact Json.stripLocations_arr statements

end Node

namespace MemberEntry

theorem stripLocations_methodKind (entry : MemberEntry) :
    entry.methodKind.stripLocations = entry.stripLocations.methodKind := by
  unfold methodKind
  rw [isAccessor_stripLocations]
  split <;> rfl

theorem stripLocations_toMethod {entry : MemberEntry}
    (plain : Node.hasPlainFlags entry.value = true) (isStatic : Bool) :
    (entry.toMethod isStatic).stripLocations = entry.stripLocations.toMethod isStatic := by
  rw [toMethod, Node.stripLocations_methodDefinition, Node.stripLocations_copiedFunction plain,
    stripLocations_methodKind]
  rfl

theorem map_stripLocations_toMethod {entries : List MemberEntry}
    (plain : ∀ entry ∈ entries, Node.hasPlainFlags entry.value = true) (isStatic : Bool) :
    (entries.map (·.toMethod isStatic)).map Json.stripLocations =
      (entries.map (·.stripLocations)).map (·.toMethod isStatic) := by
  rw [List.map_map, List.map_map]
  apply List.map_congr_left
  intro entry isEntry
  exact stripLocations_toMethod (plain entry isEntry) isStatic

theorem stripLocations_toField (entry : MemberEntry) :
    entry.toField.stripLocations = entry.stripLocations.toField := by
  simp [toField, stripLocations]

theorem toAssignment_stripsTo (object : Json) (entry : MemberEntry) :
    StripsTo (·.stripLocations = ·) (entry.toAssignment object)
      (entry.stripLocations.toAssignment object.stripLocations) := by
  apply (Node.propertyAccess_stripsTo object entry.key entry.computed).bind
  rintro target _ _ rfl
  exact .succeeds rfl

end MemberEntry

/-! ## Static members -/

namespace StaticMembers

/-- The class body and the data left over, both without locations. -/
def stripLocations (members : StaticMembers) : StaticMembers where
  body := members.body.map (·.stripLocations)
  data := members.data.map (·.stripLocations)

theorem append_stripsTo {entries : List MemberEntry}
    (plain : ∀ entry ∈ entries, Node.hasPlainFlags entry.value = true) (body : List Json) :
    StripsTo (·.stripLocations = ·) (append entries body).outcome
      (append (entries.map (·.stripLocations)) (body.map (·.stripLocations))).outcome := by
  simp only [append, Traced.outcome_bind, ClassifiedMembers.ofEntries_outcome,
    Traced.outcome_record, Traced.outcome_pure, ok_bind]
  apply (ClassifiedMembers.split_stripsTo none false entries).bind
  rintro members _ splits rfl
  apply StripsTo.succeeds
  have membersAre : members = .byRole none false entries := ClassifiedMembers.split_eq_ok splits
  have methodsPlain : ∀ entry ∈ members.methods, Node.hasPlainFlags entry.value = true := by
    intro entry isMethod
    rw [membersAre, ClassifiedMembers.byRole_none] at isMethod
    exact plain entry (List.mem_filter.mp isMethod).1
  simp only [stripLocations, ClassifiedMembers.stripLocations, List.map_append,
    MemberEntry.map_stripLocations_toMethod methodsPlain]

theorem assignments_stripsTo (scope : Scope) (path : NamespacePath) (data : List MemberEntry) :
    StripsTo (List.map Json.stripLocations · = ·) (assignments scope path data)
      (assignments scope path (data.map (·.stripLocations))) := by
  apply StripsTo.mapM
  intro entry
  have assigns := entry.toAssignment_stripsTo (scope.accessor path)
  rw [Scope.stripLocations_accessor] at assigns
  exact assigns

end StaticMembers

/-! ## Placing data -/

namespace ConstructorSlot

/-- The constructor and the class body it belongs to, both without locations. -/
def stripLocations : ConstructorSlot → ConstructorSlot
  | .within before node after =>
      .within (before.map (·.stripLocations)) node.stripLocations (after.map (·.stripLocations))
  | .apart body node => .apart (body.map (·.stripLocations)) node.stripLocations

theorem body_stripLocations (slot : ConstructorSlot) :
    slot.stripLocations.body = slot.body.map (·.stripLocations) := by
  cases slot <;> simp [stripLocations, body]

theorem append_stripLocations (slot : ConstructorSlot) (members : List Json) :
    slot.stripLocations.append (members.map (·.stripLocations)) =
      (slot.append members).stripLocations := by
  cases slot <;> simp [stripLocations, append]

end ConstructorSlot

namespace Placement

/-- The result of placing data, and what went wrong, without locations. -/
def stripPlaced {α : Type} (strip : α → α) (placed : α × Option Failure) : α × Option Failure :=
  (strip placed.1, placed.2.map (·.stripLocations))

theorem initialisers_stripLocations (data : List MemberEntry) :
    initialisers (data.map (·.stripLocations)) =
      stripPlaced (List.map Json.stripLocations) (initialisers data) := by
  induction data with
  | nil => rfl
  | cons entry rest ih =>
      have assigns := entry.toAssignment_stripsTo Node.thisExpression
      rw [Node.stripLocations_thisExpression] at assigns
      simp only [List.map_cons, initialisers, ih]
      generalize entry.toAssignment Node.thisExpression = outcome at assigns
      generalize entry.stripLocations.toAssignment Node.thisExpression = bare at assigns
      cases assigns with
      | fails failure => rfl
      | succeeds same =>
          subst same
          rfl

theorem initialise_stripLocations (node : Json) (data : List MemberEntry) :
    initialise node.stripLocations (data.map (·.stripLocations)) =
      stripPlaced Json.stripLocations (initialise node data) := by
  have reads := Node.constructorStatements_stripsTo node
  unfold initialise
  generalize Node.constructorStatements node = outcome at reads
  generalize Node.constructorStatements node.stripLocations = bare at reads
  cases reads with
  | fails failure => rfl
  | @succeeds found _ same =>
      subst same
      cases found with
      | arr statements =>
          simp [initialisers_stripLocations, stripPlaced,
            Node.stripLocations_withConstructorStatements]
      | null | bool | int | float | str | obj => cases data <;> rfl

theorem place_stripLocations (target : Target) (slot : ConstructorSlot)
    (data : List MemberEntry) :
    place target slot.stripLocations (data.map (·.stripLocations)) =
      stripPlaced ConstructorSlot.stripLocations (place target slot data) := by
  cases target with
  | es2015 =>
      cases slot <;>
        simp [place, ConstructorSlot.stripLocations, ConstructorSlot.node,
          ConstructorSlot.replaceNode, initialise_stripLocations, stripPlaced]
  | es2017 =>
      cases slot with
      | within before node after =>
          simp [place, declare, ConstructorSlot.stripLocations, stripPlaced,
            MemberEntry.stripLocations_toField]
      | apart body node => rfl

end Placement

/-! ## Instance members -/

namespace InstanceMembers

/-- How an addition and the one without locations compare. -/
structure Added.HasBare (added bare : Added) : Prop where
  bodyIs : bare.body = added.body.map Json.stripLocations
  membersCompare : StripsTo (fun _ _ => True) added.members.outcome bare.members.outcome

theorem stripLocations_synthesisedConstructor (derived : Bool) :
    (Node.synthesisedConstructor derived).stripLocations = Node.synthesisedConstructor derived := by
  cases derived <;> rfl

/-- A class body without a constructor of its own gets the same one without locations. -/
theorem chooseSlot_stripsTo (derived : Bool) {members : ClassifiedMembers}
    (plain : ∀ entry ∈ members.classConstructor, Node.hasPlainFlags entry.value = true)
    (body : List Json) :
    StripsTo (Option.map ConstructorSlot.stripLocations · = ·)
      (chooseSlot false derived members body).outcome
      (chooseSlot false derived members.stripLocations (body.map (·.stripLocations))).outcome := by
  unfold chooseSlot
  rw [ClassifiedMembers.stripLocations]
  cases entryIs : members.classConstructor with
  | some entry =>
      have sameNode : (Node.classConstructor (Node.copiedFunction entry.value)).stripLocations =
          Node.classConstructor (Node.copiedFunction entry.value.stripLocations) := by
        rw [← Node.stripLocations_copiedFunction (plain entry entryIs)]
        rfl
      apply StripsTo.succeeds
      rw [Option.map_some, ConstructorSlot.stripLocations, sameNode]
      rfl
  | none =>
      simp only [Option.map_none, List.isEmpty_map, Traced.outcome_bind, Traced.outcome_liftM,
        Bool.false_eq_true, if_false, pure, Except.pure, ok_bind]
      split
      · exact .succeeds rfl
      · apply StripsTo.succeeds
        rw [Option.map_some, ConstructorSlot.stripLocations, stripLocations_synthesisedConstructor]
        rfl

theorem finish_hasBare (target : Target) (slot : ConstructorSlot) (methods bareMethods : List Json)
    (data : List MemberEntry) :
    (finish target slot methods data).HasBare
      (finish target slot.stripLocations bareMethods (data.map (·.stripLocations))) := by
  unfold finish
  rw [List.isEmpty_map, Placement.place_stripLocations]
  split
  · exact ⟨slot.body_stripLocations, .succeeds trivial⟩
  · rcases Placement.place target slot data with ⟨placed, failure⟩
    refine ⟨placed.body_stripLocations, ?_⟩
    cases failure with
    | some failure => exact .fails failure
    | none => exact .succeeds trivial

theorem plan_stripsTo (options : Options) (derived : Bool) {entries : List MemberEntry}
    (plain : ∀ entry ∈ entries, Node.hasPlainFlags entry.value = true) (body : List Json) :
    StripsTo
      (fun planned bare =>
        bare = (planned.1.stripLocations, planned.2.map ConstructorSlot.stripLocations) ∧
          ∀ entry ∈ planned.1.methods, Node.hasPlainFlags entry.value = true)
      (plan options false derived entries body).outcome
      (plan options false derived (entries.map (·.stripLocations))
        (body.map (·.stripLocations))).outcome := by
  simp only [plan, Traced.outcome_bind, ClassifiedMembers.ofEntries_outcome, Traced.outcome_pure]
  apply (ClassifiedMembers.split_stripsTo (some options.constructorName) false entries).bind
  rintro members _ splits rfl
  have membersAre : members = .byRole (some options.constructorName) false entries :=
    ClassifiedMembers.split_eq_ok splits
  have allPlain : ∀ entry ∈ members.classConstructor.toList ++ members.methods ++ members.data,
      Node.hasPlainFlags entry.value = true := by
    intro entry isMember
    rw [membersAre] at isMember
    exact plain entry ((ClassifiedMembers.byRole_perm _ _ _).subset isMember)
  apply (chooseSlot_stripsTo derived (fun entry isTaken => allPlain entry ?_) body).bind
  · rintro slot _ _ rfl
    refine .succeeds ⟨rfl, ?_⟩
    intro entry isMethod
    exact allPlain entry (by simp [isMethod])
  · have isTaken : members.classConstructor = some entry := isTaken
    simp [isTaken]

theorem carryOut_hasBare (target : Target) {members : ClassifiedMembers}
    (plain : ∀ entry ∈ members.methods, Node.hasPlainFlags entry.value = true) (body : List Json)
    (slot? : Option ConstructorSlot) :
    (carryOut target false body members slot?).HasBare
      (carryOut target false (body.map (·.stripLocations)) members.stripLocations
        (slot?.map ConstructorSlot.stripLocations)) := by
  have methodsAre : methodsOf members.stripLocations =
      (methodsOf members).map (·.stripLocations) :=
    (MemberEntry.map_stripLocations_toMethod plain false).symm
  cases slot? with
  | none => exact ⟨by simp [carryOut, methodsAre], .succeeds trivial⟩
  | some slot =>
      rw [Option.map_some, carryOut, carryOut, methodsAre, slot.append_stripLocations]
      exact finish_hasBare target _ _ _ members.data

/-- Adding the members of a plain table gives the same without locations, or fails alike. -/
theorem add_hasBare (options : Options) (derived : Bool) {entries : List MemberEntry}
    (plain : ∀ entry ∈ entries, Node.hasPlainFlags entry.value = true) (body : List Json) :
    (add options false derived entries body).HasBare
      (add options false derived (entries.map (·.stripLocations))
        (body.map (·.stripLocations))) := by
  have plans := plan_stripsTo options derived plain body
  generalize planned : (plan options false derived entries body).outcome = outcome at plans
  generalize plannedBare : (plan options false derived (entries.map (·.stripLocations))
    (body.map (·.stripLocations))).outcome = outcomeBare at plans
  cases plans with
  | fails failure =>
      rw [add_eq, add_eq, planned, plannedBare]
      exact ⟨rfl, .fails failure⟩
  | @succeeds plan _ areRelated =>
      rcases plan with ⟨members, slot?⟩
      rcases areRelated with ⟨rfl, methodsPlain⟩
      have carried := carryOut_hasBare options.target methodsPlain body slot?
      refine ⟨?_, ?_⟩
      · rw [(add_of_plan planned).1, (add_of_plan plannedBare).1]
        exact carried.bodyIs
      · rw [(add_of_plan planned).2, (add_of_plan plannedBare).2]
        exact carried.membersCompare

end InstanceMembers

end ClassLift

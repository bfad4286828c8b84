import ClassLift.ClassBody.Method
import ClassLift.Proofs.ClassBody.Constructor
import ClassLift.Proofs.Member.Classify

/-!
# What adding members does to a class body

Static members add their methods to the end of a class body. Instance members
add more: an addition that succeeds puts the constructor where it belongs, the
data before it or into it, and the methods at the end. `InstanceMembers.Seat`
lists the three ways in which a constructor comes to stand in the body, and
`InstanceMembers.add_eq_ok` gives the body that is left.
-/

namespace ClassLift

namespace MemberEntry

/-- Whether the member that an entry names is reached with brackets. -/
def isBracketed (entry : MemberEntry) : Bool :=
  entry.computed || Node.hasType "Literal" entry.key

/-- The statement that assigns the value of an entry to the member of an object it names. -/
def assignedTo (object : Json) (entry : MemberEntry) : Json :=
  Node.assignmentStatement (Node.member object entry.key (.bool entry.isBracketed)) entry.value

theorem toAssignment_eq_ok {entry : MemberEntry} {object statement : Json}
    (assigns : entry.toAssignment object = .ok statement) :
    statement = entry.assignedTo object := by
  unfold toAssignment at assigns
  rcases bind_eq_ok_iff.mp assigns with ⟨target, accesses, assigns⟩
  rw [pure_eq_ok_iff] at assigns
  unfold Node.propertyAccess at accesses
  rw [Json.isTruthy_bool] at accesses
  split at accesses
  · rename_i computed
    simp only [Except.ok.injEq] at accesses
    rw [← assigns, ← accesses, assignedTo, isBracketed, computed, Bool.true_or]
  · rename_i notComputed
    rcases bind_eq_ok_iff.mp accesses with ⟨type, typeRead, accesses⟩
    rw [pure_eq_ok_iff, Json.field_eq_ok typeRead, Json.isStr_getD_null] at accesses
    have notComputed : entry.computed = false := by simpa using notComputed
    rw [← assigns, ← accesses, assignedTo, isBracketed, notComputed, Bool.false_or, Node.hasType]
    cases (entry.key.field? "type").any (·.isStr "Literal") <;> rfl

/-- Assignments to one object are made entry by entry. -/
theorem mapM_toAssignment_eq_ok {object : Json} {data : List MemberEntry}
    {statements : List Json} (assigns : data.mapM (·.toAssignment object) = .ok statements) :
    statements = data.map (·.assignedTo object) := by
  induction data generalizing statements with
  | nil =>
      rw [List.mapM_nil, pure_eq_ok_iff] at assigns
      exact assigns.symm
  | cons entry rest ih =>
      rw [List.mapM_cons] at assigns
      rcases bind_eq_ok_iff.mp assigns with ⟨statement, entryAssigns, assigns⟩
      rcases bind_eq_ok_iff.mp assigns with ⟨others, restAssigns, assigns⟩
      rw [pure_eq_ok_iff] at assigns
      rw [← assigns, toAssignment_eq_ok entryAssigns, ih restAssigns, List.map_cons]

end MemberEntry

namespace StaticMembers

/-- Static methods are appended in table order and static data is handed back in table order. -/
theorem append_eq_ok {entries : List MemberEntry} {body : List Json} {added : StaticMembers}
    (appends : (append entries body).outcome = .ok added) :
    added = ⟨body ++ (entries.filter (·.isMethod)).map (·.toMethod true),
      entries.filter (!·.isMethod)⟩ := by
  simp only [append, Traced.outcome_bind, ClassifiedMembers.ofEntries_outcome,
    Traced.outcome_record, Traced.outcome_pure] at appends
  rcases bind_eq_ok_iff.mp appends with ⟨members, splits, appends⟩
  rcases bind_eq_ok_iff.mp appends with ⟨_, _, appends⟩
  have membersAre : members = ClassifiedMembers.byRole none false entries :=
    ClassifiedMembers.split_eq_ok splits
  rw [ClassifiedMembers.byRole_none] at membersAre
  simp only [Except.ok.injEq] at appends
  rw [← appends, membersAre]

end StaticMembers

namespace Placement

/-- The statements that initialise data in a constructor. -/
def thisAssignments (data : List MemberEntry) : List Json :=
  data.map (·.assignedTo Node.thisExpression)

/-- The fields that a target declares for data. -/
def declaredFields (target : Target) (data : List MemberEntry) : List Json :=
  match target with
  | .es2015 => []
  | .es2017 => data.map (·.toField)

/-- A constructor with the initialisers that a target puts into it. -/
def initialised (target : Target) (node : Json) (data : List MemberEntry) : Json :=
  match target with
  | .es2015 => Node.appendStatements node (thisAssignments data)
  | .es2017 => node

@[simp]
theorem declaredFields_nil (target : Target) : declaredFields target [] = [] := by
  cases target <;> rfl

@[simp]
theorem initialised_nil (target : Target) (node : Json) : initialised target node [] = node := by
  cases target with
  | es2015 => exact Node.appendStatements_nil node
  | es2017 => rfl

theorem declaredFields_append (target : Target) (data later : List MemberEntry) :
    declaredFields target (data ++ later) =
      declaredFields target data ++ declaredFields target later := by
  cases target with
  | es2015 => rfl
  | es2017 => exact List.map_append

/-- Data placed at a constructor in two steps is placed as if in one. -/
theorem initialised_initialised (target : Target) (node : Json) (data later : List MemberEntry) :
    initialised target (initialised target node data) later =
      initialised target node (data ++ later) := by
  cases target with
  | es2015 =>
      simp only [initialised, Node.appendStatements_appendStatements, thisAssignments,
        List.map_append]
  | es2017 => rfl

theorem isClassConstructor_of_mem_declaredFields {target : Target} {data : List MemberEntry}
    {member : Json} (isDeclared : member ∈ declaredFields target data) :
    Node.isClassConstructor member = false := by
  cases target with
  | es2015 => simp [declaredFields] at isDeclared
  | es2017 =>
      rcases List.mem_map.mp isDeclared with ⟨entry, _, rfl⟩
      exact Node.isClassConstructor_toField entry

theorem isField_of_mem_declaredFields {target : Target} {data : List MemberEntry} {member : Json}
    (isDeclared : member ∈ declaredFields target data) : Node.isField member = true := by
  cases target with
  | es2015 => simp [declaredFields] at isDeclared
  | es2017 =>
      rcases List.mem_map.mp isDeclared with ⟨entry, _, rfl⟩
      exact Node.isField_toField entry

@[simp]
theorem isClassConstructor_initialised (target : Target) (node : Json)
    (data : List MemberEntry) :
    Node.isClassConstructor (initialised target node data) = Node.isClassConstructor node := by
  cases target with
  | es2015 => exact Node.isClassConstructor_appendStatements node _
  | es2017 => rfl

@[simp]
theorem isField_initialised (target : Target) (node : Json) (data : List MemberEntry) :
    Node.isField (initialised target node data) = Node.isField node := by
  cases target with
  | es2015 => exact Node.isField_appendStatements node _
  | es2017 => rfl

theorem initialisers_eq_none {data : List MemberEntry} {statements : List Json}
    (succeeds : initialisers data = (statements, none)) : statements = thisAssignments data := by
  induction data generalizing statements with
  | nil =>
      simp only [initialisers, Prod.mk.injEq, and_true] at succeeds
      exact succeeds.symm
  | cons entry rest ih =>
      simp only [initialisers] at succeeds
      split at succeeds
      · simp at succeeds
      · rename_i statement assigns
        simp only [Prod.mk.injEq] at succeeds
        have others : (initialisers rest).1 = thisAssignments rest :=
          ih (Prod.ext rfl succeeds.2)
        rw [← succeeds.1, others, MemberEntry.toAssignment_eq_ok assigns]
        rfl

/--
Placing data that is there declares its fields before the constructor and adds
its initialisers to the constructor, each only for its own target.
-/
theorem place_eq_none {target : Target} {before after : List Json} {node : Json}
    {data : List MemberEntry} {placed : ConstructorSlot} (hasData : data ≠ [])
    (places : place target (.within before node after) data = (placed, none)) :
    placed = .within (before ++ declaredFields target data) (initialised target node data) after ∧
      (target = .es2015 →
        ∃ statements, Node.constructorStatements node = .ok (.arr statements)) := by
  cases target with
  | es2017 =>
      simp only [place, declare, Prod.mk.injEq, and_true] at places
      exact ⟨places.symm, nofun⟩
  | es2015 =>
      simp only [place, ConstructorSlot.node, ConstructorSlot.replaceNode, initialise] at places
      cases read : Node.constructorStatements node with
      | error failure => simp [read] at places
      | ok found =>
          cases found with
          | arr statements =>
              simp only [read, Prod.mk.injEq] at places
              have added : (initialisers data).1 = thisAssignments data :=
                initialisers_eq_none (Prod.ext rfl places.2)
              rw [← places.1, added, declaredFields, List.append_nil, initialised,
                Node.appendStatements_of_read read]
              exact ⟨rfl, fun _ => ⟨statements, rfl⟩⟩
          | null | bool | int | float | str | obj => simp [read, hasData] at places

end Placement

namespace InstanceMembers

/-- What a slot leads to once its data is placed. -/
theorem finish_eq_ok {target : Target} {before after methods : List Json} {node : Json}
    {data : List MemberEntry} {result : InstanceMembers}
    (finishes : (finish target (.within before node after) methods data).members.outcome =
      .ok result) :
    (finish target (.within before node after) methods data).body =
        before ++ Placement.declaredFields target data ++
          Placement.initialised target node data :: after ∧
      result = ⟨some (.within (before ++ Placement.declaredFields target data)
        (Placement.initialised target node data) after), true, methods, data⟩ ∧
      (target = .es2015 → data ≠ [] →
        ∃ statements, Node.constructorStatements node = .ok (.arr statements)) := by
  unfold finish at finishes ⊢
  by_cases hasData : data = []
  · subst hasData
    simp only [List.isEmpty_nil, if_true, Traced.outcome_pure, Except.ok.injEq] at finishes ⊢
    simp [← finishes, ConstructorSlot.body]
  · have notEmpty : data.isEmpty = false := by simpa using hasData
    simp only [notEmpty, Bool.false_eq_true, if_false] at finishes ⊢
    cases places : Placement.place target (.within before node after) data with
    | mk placed failure =>
        cases failure with
        | some failure => simp [places] at finishes
        | none =>
            rcases Placement.place_eq_none hasData places with ⟨placedIs, hasList⟩
            simp only [places, Traced.outcome_bind, Traced.outcome_record,
              Traced.outcome_pure] at finishes
            rcases bind_eq_ok_iff.mp finishes with ⟨_, _, resultIs⟩
            simp only [Except.ok.injEq] at resultIs
            refine ⟨?_, ?_, fun isInline _ => hasList isInline⟩
            · rw [placedIs]
              rfl
            · rw [← resultIs, placedIs]

/-- Fields declared in the class body never stand in the way of adding members. -/
theorem finish_es2017 (before after methods : List Json) (node : Json)
    (data : List MemberEntry) :
    ∃ result, (finish .es2017 (.within before node after) methods data).members.outcome =
      .ok result := by
  unfold finish
  by_cases hasData : data = []
  · simp [hasData]
  · have notEmpty : data.isEmpty = false := by simpa using hasData
    simp only [notEmpty, Bool.false_eq_true, if_false]
    exact ⟨_, rfl⟩

/--
How a constructor comes to stand between two parts of a class body: it is taken
from the table, it was there already, or it is made up for data.
-/
inductive Seat (produced derived : Bool) (members : ClassifiedMembers) (body : List Json) :
    List Json → Json → List Json → Prop where
  | taken (entry : MemberEntry) (isConstructor : members.classConstructor = some entry) :
      Seat produced derived members body
        body (Node.classConstructor (Node.copiedFunction entry.value)) []
  | present (before : List Json) (node : Json) (after : List Json)
      (noEntry : members.classConstructor = none) (isProduced : produced = true)
      (bodyIs : body = before ++ node :: after)
      (isConstructor : Node.isClassConstructor node = true)
      (isFirst : ∀ member ∈ before, Node.isClassConstructor member = false) :
      Seat produced derived members body before node after
  | synthesised (noEntry : members.classConstructor = none)
      (noneThere : produced = true →
        ∀ member ∈ body, Node.isClassConstructor member = false)
      (hasData : members.data ≠ []) :
      Seat produced derived members body body (Node.synthesisedConstructor derived) []

/-- A constructor is seated unless there is none in the table, none in the body and no data. -/
theorem chooseSlot_eq_ok {produced derived : Bool} {members : ClassifiedMembers}
    {body : List Json} {slot? : Option ConstructorSlot}
    (chooses : (chooseSlot produced derived members body).outcome = .ok slot?) :
    (∃ before node after, slot? = some (.within before node after) ∧
        Seat produced derived members body before node after) ∨
      (slot? = none ∧ members.classConstructor = none ∧ members.data = [] ∧
        (produced = true → ∀ member ∈ body, Node.isClassConstructor member = false)) := by
  unfold chooseSlot at chooses
  cases entryIs : members.classConstructor with
  | some entry =>
      simp only [entryIs, Traced.outcome_pure, Except.ok.injEq] at chooses
      left
      exact ⟨_, _, _, chooses.symm, .taken entry entryIs⟩
  | none =>
      simp only [entryIs, Traced.outcome_bind, Traced.outcome_liftM] at chooses
      rcases bind_eq_ok_iff.mp chooses with ⟨found, finds, chosen⟩
      cases found with
      | some slot =>
          simp only [Traced.outcome_pure, Except.ok.injEq] at chosen
          cases produced with
          | false => simp [pure_eq_ok_iff] at finds
          | true =>
              rcases ConstructorSlot.find?_eq_ok finds with
                ⟨nothing, _⟩ | ⟨before, node, after, slotIs, bodyIs, isConstructor, isFirst⟩
              · simp at nothing
              · left
                exact ⟨before, node, after, chosen.symm.trans slotIs,
                  .present before node after entryIs rfl bodyIs isConstructor isFirst⟩
      | none =>
          have noneThere : produced = true →
              ∀ member ∈ body, Node.isClassConstructor member = false := by
            rintro rfl
            rcases ConstructorSlot.find?_eq_ok finds with ⟨_, noneThere⟩ | ⟨_, _, _, slotIs, _⟩
            · exact noneThere
            · simp at slotIs
          by_cases hasData : members.data = []
          · simp only [hasData, List.isEmpty_nil, if_true, Traced.outcome_pure,
              Except.ok.injEq] at chosen
            right
            exact ⟨chosen.symm, rfl, hasData, noneThere⟩
          · have notEmpty : members.data.isEmpty = false := by simpa using hasData
            simp only [notEmpty, Bool.false_eq_true, if_false, Traced.outcome_bind,
              Traced.outcome_record, Traced.outcome_pure] at chosen
            rcases bind_eq_ok_iff.mp chosen with ⟨_, _, chosen⟩
            simp only [Except.ok.injEq] at chosen
            left
            exact ⟨_, _, _, chosen.symm, .synthesised entryIs noneThere hasData⟩

/-- The methods that a table adds to a class body. -/
def methodsOf (members : ClassifiedMembers) : List Json :=
  members.methods.map (·.toMethod false)

/-- What is decided before a class body is touched: the roles and the constructor's place. -/
def plan (options : Options) (produced derived : Bool) (entries : List MemberEntry)
    (body : List Json) : Traced (ClassifiedMembers × Option ConstructorSlot) := do
  let members ← ClassifiedMembers.ofEntries (some (.str options.constructorName)) produced entries
  let slot ← chooseSlot produced derived members body
  return (members, slot)

/-- What is done to a class body after that. -/
def carryOut (target : Target) (produced : Bool) (body : List Json) (members : ClassifiedMembers) :
    Option ConstructorSlot → Added
  | some slot => finish target (slot.append (methodsOf members)) (methodsOf members) members.data
  | none => ⟨body ++ methodsOf members, pure ⟨none, produced, methodsOf members, members.data⟩⟩

theorem plan_eq_ok_iff {options : Options} {produced derived : Bool} {entries : List MemberEntry}
    {body : List Json} {members : ClassifiedMembers} {slot? : Option ConstructorSlot} :
    (plan options produced derived entries body).outcome = .ok (members, slot?) ↔
      ClassifiedMembers.split (some (.str options.constructorName)) produced entries =
          .ok members ∧
        (chooseSlot produced derived members body).outcome = .ok slot? := by
  simp only [plan, Traced.outcome_bind, Traced.outcome_pure, ClassifiedMembers.ofEntries_outcome,
    bind_eq_ok_iff, Except.ok.injEq, Prod.mk.injEq]
  constructor
  · rintro ⟨_, splits, _, chooses, rfl, rfl⟩
    exact ⟨splits, chooses⟩
  · rintro ⟨splits, chooses⟩
    exact ⟨_, splits, _, chooses, rfl, rfl⟩

theorem add_eq (options : Options) (produced derived : Bool) (entries : List MemberEntry)
    (body : List Json) :
    add options produced derived entries body =
      match (plan options produced derived entries body).outcome with
      | .error failure =>
          ⟨body, ⟨(plan options produced derived entries body).log, .error failure⟩⟩
      | .ok (members, slot?) =>
          ⟨(carryOut options.target produced body members slot?).body, do
            let _ ← plan options produced derived entries body
            (carryOut options.target produced body members slot?).members⟩ :=
  rfl

/-- An addition carries out its plan. -/
theorem add_of_plan {options : Options} {produced derived : Bool} {entries : List MemberEntry}
    {body : List Json} {members : ClassifiedMembers} {slot? : Option ConstructorSlot}
    (plans : (plan options produced derived entries body).outcome = .ok (members, slot?)) :
    (add options produced derived entries body).body =
        (carryOut options.target produced body members slot?).body ∧
      (add options produced derived entries body).members.outcome =
        (carryOut options.target produced body members slot?).members.outcome := by
  rw [add_eq, plans]
  refine ⟨rfl, ?_⟩
  rw [Traced.outcome_bind, plans]
  rfl

/-- An addition that succeeds has a plan, for the entries by their roles. -/
theorem exists_plan_of_add {options : Options} {produced derived : Bool}
    {entries : List MemberEntry} {body : List Json} {result : InstanceMembers}
    (adds : (add options produced derived entries body).members.outcome = .ok result) :
    ∃ slot?, (plan options produced derived entries body).outcome =
      .ok (.byRole (some options.constructorName) produced entries, slot?) := by
  cases plans : (plan options produced derived entries body).outcome with
  | error failure =>
      rw [add_eq, plans] at adds
      simp at adds
  | ok planned =>
      rcases planned with ⟨members, slot?⟩
      have splits := (plan_eq_ok_iff.mp plans).1
      have membersAre :
          members = .byRole (some options.constructorName) produced entries :=
        ClassifiedMembers.split_eq_ok splits
      exact ⟨slot?, by rw [membersAre]⟩

/-- The class body that a seated constructor leads to. -/
theorem carryOut_seated {target : Target} {produced : Bool} {body before after : List Json}
    {node : Json} {members : ClassifiedMembers} {result : InstanceMembers}
    (carried : (carryOut target produced body members
      (some (.within before node after))).members.outcome = .ok result) :
    (carryOut target produced body members (some (.within before node after))).body =
        before ++ Placement.declaredFields target members.data ++
          Placement.initialised target node members.data :: (after ++ methodsOf members) ∧
      result = ⟨some (.within (before ++ Placement.declaredFields target members.data)
          (Placement.initialised target node members.data) (after ++ methodsOf members)), true,
        methodsOf members, members.data⟩ ∧
      (target = .es2015 → members.data ≠ [] →
        ∃ statements, Node.constructorStatements node = .ok (.arr statements)) :=
  finish_eq_ok carried

/--
The class body after an addition and what the addition says of it: either a
constructor is seated and the data is placed at it, or there is neither a
constructor nor data and methods alone are added.
-/
theorem add_cases {options : Options} {produced derived : Bool} {entries : List MemberEntry}
    {body : List Json} {result : InstanceMembers} {members : ClassifiedMembers}
    (membersAre : members = .byRole (some options.constructorName) produced entries)
    (adds : (add options produced derived entries body).members.outcome = .ok result) :
    (∃ before node after, Seat produced derived members body before node after ∧
        (add options produced derived entries body).body =
          before ++ Placement.declaredFields options.target members.data ++
            Placement.initialised options.target node members.data ::
              (after ++ methodsOf members) ∧
        result = ⟨some (.within (before ++ Placement.declaredFields options.target members.data)
            (Placement.initialised options.target node members.data)
            (after ++ methodsOf members)), true, methodsOf members, members.data⟩ ∧
        (options.target = .es2015 → members.data ≠ [] →
          ∃ statements, Node.constructorStatements node = .ok (.arr statements))) ∨
      (members.classConstructor = none ∧ members.data = [] ∧
        (produced = true → ∀ member ∈ body, Node.isClassConstructor member = false) ∧
        (add options produced derived entries body).body = body ++ methodsOf members ∧
        result = ⟨none, produced, methodsOf members, members.data⟩) := by
  rcases exists_plan_of_add adds with ⟨slot?, plans⟩
  rw [← membersAre] at plans
  have carriedOut := add_of_plan plans
  rw [carriedOut.2] at adds
  rw [carriedOut.1]
  rcases chooseSlot_eq_ok (plan_eq_ok_iff.mp plans).2 with
    ⟨before, node, after, rfl, seat⟩ | ⟨rfl, noEntry, noData, noneThere⟩
  · left
    exact ⟨before, node, after, seat, carryOut_seated adds⟩
  · right
    simp only [carryOut, Traced.outcome_pure, Except.ok.injEq] at adds
    exact ⟨noEntry, noData, noneThere, rfl, adds.symm⟩

/-- The class body after an addition, and whether it is known to have a constructor. -/
theorem add_eq_ok {options : Options} {produced derived : Bool} {entries : List MemberEntry}
    {body : List Json} {result : InstanceMembers} {members : ClassifiedMembers}
    (membersAre : members = .byRole (some options.constructorName) produced entries)
    (adds : (add options produced derived entries body).members.outcome = .ok result) :
    (∃ before node after, Seat produced derived members body before node after ∧
        (add options produced derived entries body).body =
          before ++ Placement.declaredFields options.target members.data ++
            Placement.initialised options.target node members.data ::
              (after ++ methodsOf members) ∧
        result.produced = true ∧
        (options.target = .es2015 → members.data ≠ [] →
          ∃ statements, Node.constructorStatements node = .ok (.arr statements))) ∨
      (members.classConstructor = none ∧ members.data = [] ∧
        (produced = true → ∀ member ∈ body, Node.isClassConstructor member = false) ∧
        (add options produced derived entries body).body = body ++ methodsOf members ∧
        result.produced = produced) := by
  rcases add_cases membersAre adds with
    ⟨before, node, after, seat, bodyIs, resultIs, hasList⟩ |
      ⟨noEntry, noData, noneThere, bodyIs, resultIs⟩
  · exact .inl ⟨before, node, after, seat, bodyIs, by rw [resultIs], hasList⟩
  · exact .inr ⟨noEntry, noData, noneThere, bodyIs, by rw [resultIs]⟩

end InstanceMembers

end ClassLift

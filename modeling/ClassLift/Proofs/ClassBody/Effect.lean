import ClassLift.Proofs.Member.Shape

/-!
# What an addition of instance members does

An addition decides three things before it touches the class body: the roles of
the entries, whether it builds a constructor, and otherwise which one it finds.
`InstanceMembers.AddsMembers` gives the class body for each of these cases, and
`InstanceMembers.PlanFails` the two ways in which the decision can fail. Where
data is declared in the class body nothing can fail after the decision, so an
addition that fails has changed nothing.
-/

namespace ClassLift

namespace Node

/-- A constructor with statements added behind its own, or with nothing added to it. -/
inductive Extended (node : Json) : List Json → Json → Prop where
  | nothing : Extended node [] node
  | appended (own added : List Json) (read : constructorStatements node = .ok (.arr own)) :
      Extended node added (withConstructorStatements node (own ++ added))

end Node

namespace Placement

/-- The assignments that a target puts into the constructor. -/
def inlined (target : Target) (data : List MemberEntry) : List Json :=
  match target with
  | .es2015 => thisAssignments data
  | .es2017 => []

theorem extended_initialised {target : Target} {node : Json} {data : List MemberEntry}
    (hasList : target = .es2015 → data ≠ [] →
      ∃ statements, Node.constructorStatements node = .ok (.arr statements)) :
    Node.Extended node (inlined target data) (initialised target node data) := by
  by_cases noData : data = []
  · subst noData
    have nothingInlined : inlined target [] = [] := by cases target <;> rfl
    rw [nothingInlined, initialised_nil]
    exact .nothing
  · cases target with
    | es2015 =>
        rcases hasList rfl noData with ⟨own, read⟩
        have isAppended := Node.Extended.appended own (thisAssignments data) read
        rwa [← Node.appendStatements_of_read read] at isAppended
    | es2017 => exact .nothing

end Placement

/-! ## Failures of look-ups -/

/-- A computation that fails only by looking up a field in something without fields. -/
def FailsByLookUp {α : Type} (outcome : Except Failure α) : Prop :=
  ∀ failure, outcome = .error failure → failure = .shape .noFields

section

variable {α β : Type}

theorem failsByLookUp_ok (value : α) : FailsByLookUp (.ok value) := by
  simp [FailsByLookUp]

theorem FailsByLookUp.bind {first : Except Failure α} {second : α → Except Failure β}
    (firstFails : FailsByLookUp first) (secondFails : ∀ value, FailsByLookUp (second value)) :
    FailsByLookUp (first >>= second) := by
  intro failure fails
  cases first with
  | error other =>
      apply firstFails
      simpa [error_bind] using fails
  | ok value => exact secondFails value failure fails

theorem failsByLookUp_field (value : Json) (key : String) : FailsByLookUp (value.field key) := by
  intro failure fails
  cases value with
  | obj fields => simp [Json.field] at fails
  | null | bool | int | float | str | arr => simpa [Json.field, eq_comm] using fails

end

namespace MemberEntry

variable (entry : MemberEntry)

theorem failsByLookUp_isFunction : FailsByLookUp entry.isFunction :=
  (failsByLookUp_field _ _).bind fun _ => failsByLookUp_ok _

theorem failsByLookUp_name : FailsByLookUp entry.name := by
  unfold MemberEntry.name
  split
  · exact failsByLookUp_ok _
  · apply (failsByLookUp_field _ _).bind
    intro type
    split
    · exact failsByLookUp_field _ _
    · apply (failsByLookUp_field _ _).bind
      intro value
      split <;> exact failsByLookUp_ok _

theorem failsByLookUp_isConstructor (name : Json) : FailsByLookUp (entry.isConstructor name) := by
  unfold MemberEntry.isConstructor
  split
  · exact failsByLookUp_ok _
  · apply entry.failsByLookUp_isFunction.bind
    intro isFunction
    split
    · exact failsByLookUp_ok _
    · exact entry.failsByLookUp_name.bind fun _ => failsByLookUp_ok _

theorem failsByLookUp_role (constructorName : Option Json) (found : Bool) :
    FailsByLookUp (entry.role constructorName found) := by
  have decided : ∀ isConstructor : Bool, FailsByLookUp (if isConstructor then
        pure .classConstructor
      else do
        let isFunction ← entry.isFunction
        pure (if isFunction || entry.isAccessor then .method else .data) :
          Except Failure MemberRole) := by
    intro isConstructor
    split
    · exact failsByLookUp_ok _
    · exact entry.failsByLookUp_isFunction.bind fun _ => failsByLookUp_ok _
  unfold MemberEntry.role
  split
  · exact (entry.failsByLookUp_isConstructor _).bind decided
  · exact decided false

end MemberEntry

theorem ClassifiedMembers.failsByLookUp_split (constructorName : Option Json) (found : Bool)
    (entries : List MemberEntry) : FailsByLookUp (split constructorName found entries) := by
  induction entries generalizing found with
  | nil => exact failsByLookUp_ok _
  | cons entry rest ih =>
      apply (entry.failsByLookUp_role _ _).bind
      intro role
      exact (ih _).bind fun _ => failsByLookUp_ok _

namespace ConstructorSlot

theorem failsByLookUp_find? (body : List Json) : FailsByLookUp (find? body) := by
  induction body with
  | nil => exact failsByLookUp_ok _
  | cons node rest ih =>
      have isConstructor : FailsByLookUp (Node.isConstructor node) :=
        (failsByLookUp_field _ _).bind fun _ =>
          (failsByLookUp_field _ _).bind fun _ => failsByLookUp_ok _
      apply isConstructor.bind
      intro isConstructor
      split
      · exact failsByLookUp_ok _
      · apply ih.bind
        intro slot?
        split <;> exact failsByLookUp_ok _

/-- A body of objects can be searched. -/
theorem succeeds_find? {body : List Json} (objects : ∀ member ∈ body, member.isObject = true) :
    Succeeds (find? body) := by
  induction body with
  | nil => exact succeeds_ok _
  | cons node rest ih =>
      rcases List.forall_mem_cons.mp objects with ⟨isObject, restObjects⟩
      rcases Json.isObject_iff.mp isObject with ⟨fields, rfl⟩
      refine Succeeds.bind (succeeds_ok _) fun isConstructor => ?_
      split
      · exact succeeds_ok _
      · refine (ih restObjects).bind fun slot? => ?_
        split <;> exact succeeds_ok _

end ConstructorSlot

namespace InstanceMembers

/-! ## The plan -/

/--
Why an addition fails before it changes anything: the entries cannot be
classified, or the class body cannot be searched for the constructor it should have.
-/
inductive PlanFails (options : Options) (produced : Bool) (entries : List MemberEntry)
    (body : List Json) (failure : Failure) : Prop where
  | classification
      (fails : ClassifiedMembers.split (some (.str options.constructorName)) produced entries =
        .error failure)
  | search (members : ClassifiedMembers)
      (splits : ClassifiedMembers.split (some (.str options.constructorName)) produced entries =
        .ok members)
      (noEntry : members.classConstructor = none) (isProduced : produced = true)
      (fails : ConstructorSlot.find? body = .error failure)

theorem chooseSlot_eq_error_iff {produced derived : Bool} {members : ClassifiedMembers}
    {body : List Json} {failure : Failure} :
    (chooseSlot produced derived members body).outcome = .error failure ↔
      members.classConstructor = none ∧ produced = true ∧
        ConstructorSlot.find? body = .error failure := by
  unfold chooseSlot
  cases members.classConstructor with
  | some entry => simp
  | none =>
      simp only [Traced.outcome_bind, Traced.outcome_liftM, true_and]
      cases produced with
      | false =>
          simp only [Bool.false_eq_true, if_false, false_and, iff_false]
          cases members.data.isEmpty with
          | true => exact nofun
          | false => exact nofun
      | true =>
          cases ConstructorSlot.find? body with
          | error other => simp [error_bind]
          | ok slot? =>
              cases slot? with
              | some slot => simp [ok_bind]
              | none => cases members.data.isEmpty <;> simp [ok_bind]

theorem plan_eq_error_iff {options : Options} {produced : Bool} (derived : Bool)
    {entries : List MemberEntry} {body : List Json} {failure : Failure} :
    (plan options produced derived entries body).outcome = .error failure ↔
      PlanFails options produced entries body failure := by
  simp only [plan, Traced.outcome_bind, ClassifiedMembers.ofEntries_outcome, Traced.outcome_pure]
  cases splits : ClassifiedMembers.split (some (.str options.constructorName)) produced entries with
  | error other =>
      rw [error_bind]
      constructor
      · rintro ⟨⟩
        exact .classification splits
      · rintro (fails | ⟨_, alsoSplits, _⟩)
        · simpa [splits] using fails
        · simp [splits] at alsoSplits
  | ok members =>
      have fails_iff : (chooseSlot produced derived members body).outcome >>=
            (fun slot => .ok (members, slot)) = .error failure ↔
          (chooseSlot produced derived members body).outcome = .error failure := by
        cases (chooseSlot produced derived members body).outcome <;> simp [bind, Except.bind]
      rw [ok_bind, fails_iff, chooseSlot_eq_error_iff]
      constructor
      · rintro ⟨noEntry, isProduced, fails⟩
        exact .search members splits noEntry isProduced fails
      · rintro (alsoFails | ⟨other, alsoSplits, noEntry, isProduced, fails⟩)
        · simp [splits] at alsoFails
        · obtain rfl : members = other := by simpa [splits] using alsoSplits
          exact ⟨noEntry, isProduced, fails⟩

variable {options : Options} {produced derived : Bool} {entries : List MemberEntry}
  {body : List Json} {failure : Failure}

theorem PlanFails.byLookUp (fails : PlanFails options produced entries body failure) :
    failure = .shape .noFields := by
  cases fails with
  | classification fails => exact ClassifiedMembers.failsByLookUp_split _ _ _ _ fails
  | search _ _ _ _ fails => exact ConstructorSlot.failsByLookUp_find? _ _ fails

theorem PlanFails.of_objects (fails : PlanFails options produced entries body failure)
    (objects : ∀ member ∈ body, member.isObject = true) :
    ClassifiedMembers.split (some (.str options.constructorName)) produced entries =
      .error failure := by
  cases fails with
  | classification fails => exact fails
  | search _ _ _ _ fails =>
      rcases ConstructorSlot.succeeds_find? objects with ⟨slot?, finds⟩
      simp [finds] at fails

/-- Without a plan nothing is added, and the addition fails as the plan does. -/
theorem add_of_planFails (derived : Bool)
    (fails : PlanFails options produced entries body failure) :
    (add options produced derived entries body).body = body ∧
      (add options produced derived entries body).members.outcome = .error failure := by
  have planFails := (plan_eq_error_iff derived).mpr fails
  rw [add_eq, planFails]
  exact ⟨rfl, rfl⟩

/-- Where data is declared in the class body, an addition fails only without a plan. -/
theorem add_eq_error_iff (declares : options.target = .es2017) :
    (add options produced derived entries body).members.outcome = .error failure ↔
      PlanFails options produced entries body failure := by
  constructor
  · intro fails
    cases plans : (plan options produced derived entries body).outcome with
    | error other =>
        have otherFails := (plan_eq_error_iff derived).mp plans
        rw [(add_of_planFails derived otherFails).2] at fails
        exact Except.error.inj fails ▸ otherFails
    | ok planned =>
        rcases planned with ⟨members, slot?⟩
        rw [(add_of_plan plans).2, declares] at fails
        rcases chooseSlot_eq_ok (plan_eq_ok_iff.mp plans).2 with
          ⟨before, node, after, rfl, _⟩ | ⟨rfl, _⟩
        · rcases finish_es2017 before (after ++ methodsOf members) (methodsOf members) node
            members.data with ⟨result, finishes⟩
          simp only [carryOut, ConstructorSlot.append, finishes, reduceCtorEq] at fails
        · simp [carryOut] at fails
  · exact fun fails => (add_of_planFails derived fails).2

/-! ## The class body -/

/-- The constructor that is built: for an entry of the table, or for data that has none. -/
def newConstructor? (produced derived : Bool) (members : ClassifiedMembers) (body : List Json) :
    Option Json :=
  match members.classConstructor with
  | some entry => some (Node.classConstructor (Node.copiedFunction entry.value))
  | none =>
      if members.data ≠ [] ∧ (produced = false ∨ body.all (!Node.isClassConstructor ·)) then
        some (Node.synthesisedConstructor derived)
      else none

/-- What an addition that succeeds makes of a class body, and what it says of it. -/
structure AddsMembers (options : Options) (produced derived : Bool) (members : ClassifiedMembers)
    (body after : List Json) (result : InstanceMembers) : Prop where
  built : ∀ node, newConstructor? produced derived members body = some node →
    ∃ built, Node.Extended node (Placement.inlined options.target members.data) built ∧
      after = body ++ Placement.declaredFields options.target members.data ++ [built] ++
        members.methods.map (·.toMethod false) ∧
      result.slot = some (.within
        (body ++ Placement.declaredFields options.target members.data) built
        (members.methods.map (·.toMethod false)))
  present : produced = true → ∀ before node rest, body = before ++ node :: rest →
    Node.isClassConstructor node = true →
    (∀ member ∈ before, Node.isClassConstructor member = false) →
    ∃ found, Node.Extended node (Placement.inlined options.target members.data) found ∧
      after = before ++ Placement.declaredFields options.target members.data ++ [found] ++ rest ++
        members.methods.map (·.toMethod false) ∧
      result.slot = some (.within
        (before ++ Placement.declaredFields options.target members.data) found
        (rest ++ members.methods.map (·.toMethod false)))
  absent : newConstructor? produced derived members body = none →
    (produced = true → ∀ member ∈ body, Node.isClassConstructor member = false) →
    after = body ++ members.methods.map (·.toMethod false) ∧ result.slot = none
  flag : result.produced =
    (produced || (newConstructor? produced derived members body).isSome)
  lists : result.methods = members.methods.map (·.toMethod false) ∧ result.data = members.data

theorem newConstructor?_of_seat {members : ClassifiedMembers} {before after : List Json}
    {node : Json} (seat : Seat produced derived members body before node after) :
    (newConstructor? produced derived members body = some node ∧ before = body ∧ after = []) ∨
      (newConstructor? produced derived members body = none ∧ produced = true ∧
        body = before ++ node :: after ∧ Node.isClassConstructor node = true ∧
        ∀ member ∈ before, Node.isClassConstructor member = false) := by
  cases seat with
  | taken entry isConstructor => exact .inl ⟨by simp [newConstructor?, isConstructor], rfl, rfl⟩
  | present before node after noEntry isProduced bodyIs isConstructor isFirst =>
      right
      refine ⟨?_, isProduced, bodyIs, isConstructor, isFirst⟩
      simp [newConstructor?, noEntry, isProduced, bodyIs, isConstructor]
  | synthesised noEntry noneThere hasData =>
      left
      refine ⟨?_, rfl, rfl⟩
      simpa [newConstructor?, noEntry, hasData] using noneThere

theorem addsMembers_of_add {result : InstanceMembers}
    (adds : (add options produced derived entries body).members.outcome = .ok result) :
    AddsMembers options produced derived (.byRole (some options.constructorName) produced entries)
      body (add options produced derived entries body).body result := by
  generalize membersAre :
    ClassifiedMembers.byRole (some options.constructorName) produced entries = members
  have noEntryIfProduced : produced = true → members.classConstructor = none := by
    rintro rfl
    rw [← membersAre, ClassifiedMembers.byRole_true]
  rcases add_cases membersAre.symm adds with
    ⟨before, node, after, seat, bodyIs, resultIs, hasList⟩ |
      ⟨noEntry, noData, noneThere, bodyIs, resultIs⟩
  · have extended := Placement.extended_initialised hasList
    rcases newConstructor?_of_seat seat with
      ⟨isNew, rfl, rfl⟩ | ⟨notNew, isProduced, bodyWas, isConstructor, isFirst⟩
    · constructor
      · intro other isOther
        obtain rfl : node = other := by simpa [isNew] using isOther
        exact ⟨_, extended, by simp [bodyIs, methodsOf], by simp [resultIs, methodsOf]⟩
      · -- A constructor is built in a body that should have one only if it has none.
        intro isProduced front found rest bodyWas isConstructor isFirst
        have noEntry := noEntryIfProduced isProduced
        simp [newConstructor?, noEntry, isProduced, bodyWas, isConstructor] at isNew
      · intro notNew
        simp [isNew] at notNew
      · simp [resultIs, isNew]
      · simp [resultIs, methodsOf]
    · constructor
      · intro other isOther
        simp [notNew] at isOther
      · intro _ front found rest alsoBody alsoConstructor alsoFirst
        obtain ⟨rfl, rfl, rfl⟩ := eq_of_isFirst isConstructor isFirst alsoConstructor alsoFirst
          (bodyWas.symm.trans alsoBody)
        exact ⟨_, extended, by simp [bodyIs, methodsOf], by simp [resultIs, methodsOf]⟩
      · intro _ noneThere
        have isMember : node ∈ body := by simp [bodyWas]
        simp [noneThere isProduced node isMember] at isConstructor
      · simp [resultIs, isProduced]
      · simp [resultIs, methodsOf]
  · have notNew : newConstructor? produced derived members body = none := by
      simp [newConstructor?, noEntry, noData]
    constructor
    · intro other isOther
      simp [notNew] at isOther
    · intro isProduced front found rest bodyWas isConstructor _
      have isMember : found ∈ body := by simp [bodyWas]
      simp [noneThere isProduced found isMember] at isConstructor
    · intro _ _
      exact ⟨by simp [bodyIs, methodsOf], by simp [resultIs]⟩
    · simp [resultIs, notNew]
    · simp [resultIs, methodsOf]

/-- What an addition does, whether it succeeds or fails. -/
structure Effect (options : Options) (produced derived : Bool) (entries : List MemberEntry)
    (body : List Json) (added : Added) : Prop where
  succeeds : ∀ result, added.members.outcome = .ok result →
    AddsMembers options produced derived (.byRole (some options.constructorName) produced entries)
      body added.body result
  fails_iff : options.target = .es2017 → ∀ failure,
    added.members.outcome = .error failure ↔ PlanFails options produced entries body failure
  untouched : options.target = .es2017 → ∀ failure, added.members.outcome = .error failure →
    added.body = body ∧ failure = .shape .noFields ∧ failure ≠ .constructorOutside
  inObjects : options.target = .es2017 → (∀ member ∈ body, member.isObject = true) →
    ∀ failure, added.members.outcome = .error failure →
      ClassifiedMembers.split (some (.str options.constructorName)) produced entries =
        .error failure

/--
An addition builds a constructor, finds one or needs none, and places the data of
the table at it. If data is declared in the class body, an addition that fails has
left the body as it was.
-/
theorem add_effect (options : Options) (produced derived : Bool) (entries : List MemberEntry)
    (body : List Json) :
    Effect options produced derived entries body
      (add options produced derived entries body) where
  succeeds := fun _ adds => addsMembers_of_add adds
  fails_iff := fun declares _ => add_eq_error_iff declares
  untouched := by
    intro declares failure fails
    have planFails := (add_eq_error_iff declares).mp fails
    refine ⟨(add_of_planFails derived planFails).1, planFails.byLookUp, ?_⟩
    rw [planFails.byLookUp]
    simp
  inObjects := by
    intro declares objects failure fails
    exact ((add_eq_error_iff declares).mp fails).of_objects objects

end InstanceMembers

end ClassLift

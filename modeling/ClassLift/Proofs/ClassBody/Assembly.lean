import ClassLift.Proofs.ClassBody.Addition

/-!
# Assembling a class body in steps

A class body can be built up from any number of member tables, static ones and
ones for instances, in any order. An assembly holds the body and the flag that
says whether it has a constructor; each step takes the state that the one before
it left. `Assembly.Invariant` says what the body looks like after any run: one
constructor if the flag is set and none otherwise, all data of all steps in one
place at that constructor, and the methods of all steps in their order.

The proof keeps an `Outline` beside the body. A step changes the outline in a way
that is easy to follow, and the body is always the one that the outline describes.
-/

namespace ClassLift

/-- A table that is added to a class body. -/
inductive AssemblyStep where
  | statics (entries : List MemberEntry)
  | members (derived : Bool) (entries : List MemberEntry)

/-- A class body and whether it is known to have a constructor. -/
structure Assembly where
  body : List Json
  produced : Bool

namespace Assembly

def empty : Assembly :=
  ⟨[], false⟩

/-- Adds a table; the flag that an addition of instance members returns is kept for the next. -/
def step (options : Options) (state : Assembly) : AssemblyStep → Except Failure Assembly
  | .statics entries => do
      let added ← (StaticMembers.append entries state.body).outcome
      return { state with body := added.body }
  | .members derived entries => do
      let added := InstanceMembers.add options state.produced derived entries state.body
      let members ← added.members.outcome
      return ⟨added.body, members.produced⟩

/-- Adds tables one after the other. -/
def run (options : Options) : Assembly → List AssemblyStep → Except Failure Assembly
  | state, [] => .ok state
  | state, next :: steps => do
      let after ← state.step options next
      run options after steps

end Assembly

/-- Where the constructor of a class body comes from. -/
inductive ConstructorOrigin where
  | taken (entry : MemberEntry)
  | made (derived : Bool)

namespace ConstructorOrigin

/-- The constructor before data is put into it. -/
def node : ConstructorOrigin → Json
  | .taken entry => Node.classConstructor (Node.copiedFunction entry.value)
  | .made derived => Node.synthesisedConstructor derived

/-- The statements a constructor has of its own: those of its function, or a call of `super`. -/
def statements : ConstructorOrigin → Option (List Json)
  | .taken entry =>
      match entry.value.field? "body" with
      | none | some .null => some []
      | some block =>
          match block.field? "body" with
          | some (.arr statements) => some statements
          | _ => none
  | .made derived => some (if derived then [Node.superCallStatement (.str "args")] else [])

@[simp]
theorem isClassConstructor_node (origin : ConstructorOrigin) :
    Node.isClassConstructor origin.node = true := by
  cases origin <;> rfl

@[simp]
theorem isField_node (origin : ConstructorOrigin) : Node.isField origin.node = false := by
  cases origin <;> rfl

theorem statements_of_read {origin : ConstructorOrigin} {statements : List Json}
    (read : Node.constructorStatements origin.node = .ok (.arr statements)) :
    origin.statements = some statements := by
  cases origin with
  | made derived =>
      cases derived with
      | true =>
          obtain rfl : [Node.superCallStatement (.str "args")] = statements := by
            simpa using Json.arr.inj (Except.ok.inj read)
          rfl
      | false =>
          obtain rfl : [] = statements := by
            simpa using Json.arr.inj (Except.ok.inj read)
          rfl
  | taken entry =>
      rcases Node.constructorStatements_eq_ok_iff.mp read with
        ⟨function, block, functionRead, blockRead, statementsRead⟩
      obtain rfl : Node.copiedFunction entry.value = function := Option.some.inj functionRead
      obtain rfl :
          Node.orElse (Node.block .null) ((entry.value.field? "body").getD .null) = block :=
        Option.some.inj blockRead
      cases bodyIs : entry.value.field? "body" with
      | none =>
          rw [bodyIs] at statementsRead
          simp only [ConstructorOrigin.statements, bodyIs]
          exact congrArg some (Json.arr.inj (Option.some.inj statementsRead))
      | some body =>
          rw [bodyIs] at statementsRead
          cases body with
          | null =>
              simp only [ConstructorOrigin.statements, bodyIs]
              exact congrArg some (Json.arr.inj (Option.some.inj statementsRead))
          | bool | int | float | str | arr | obj =>
              simp only [Option.getD_some, Node.orElse] at statementsRead
              simp only [ConstructorOrigin.statements, bodyIs, statementsRead]

end ConstructorOrigin

namespace AssemblyStep

/-- The instance data of a step; static data does not go into the class body. -/
def data : AssemblyStep → List MemberEntry
  | .statics _ => []
  | .members _ entries => entries.filter (!·.isMethod)

/-- The methods of a step, given whether there is a constructor before it. -/
def methods (constructorName : String) (found : Bool) : AssemblyStep → List Json
  | .statics entries => (entries.filter (·.isMethod)).map (·.toMethod true)
  | .members _ entries =>
      ((entries.eraseP (·.mayConstruct (some constructorName) found)).filter (·.isMethod)).map
        (·.toMethod false)

/-- The constructor that a step gives to a body without one. -/
def origin? (constructorName : String) : AssemblyStep → Option ConstructorOrigin
  | .statics _ => none
  | .members derived entries =>
      match entries.find? (·.isConstructorNamed constructorName) with
      | some entry => some (.taken entry)
      | none => if entries.filter (!·.isMethod) = [] then none else some (.made derived)

/-- The instance data of all steps. -/
def dataOf (steps : List AssemblyStep) : List MemberEntry :=
  steps.flatMap data

/-- The first constructor that a step gives. -/
def originOf (constructorName : String) (steps : List AssemblyStep) : Option ConstructorOrigin :=
  steps.findSome? (·.origin? constructorName)

/-- The methods of all steps, given whether there is a constructor before them. -/
def methodsOf (constructorName : String) : Bool → List AssemblyStep → List Json
  | _, [] => []
  | found, step :: steps =>
      step.methods constructorName found ++
        methodsOf constructorName (found || (step.origin? constructorName).isSome) steps

end AssemblyStep

/--
A class body taken apart: the methods before its constructor, where the
constructor comes from, the methods after it, and the data placed at it.
-/
structure Outline where
  before : List Json
  origin : Option ConstructorOrigin
  after : List Json
  data : List MemberEntry

namespace Outline

def empty : Outline :=
  ⟨[], none, [], []⟩

/-- The class body that an outline stands for. -/
def body (target : Target) (outline : Outline) : List Json :=
  match outline.origin with
  | none => outline.before ++ outline.after
  | some origin =>
      outline.before ++ Placement.declaredFields target outline.data ++
        Placement.initialised target origin.node outline.data :: outline.after

/-- What a step does to an outline. -/
def step (constructorName : String) (outline : Outline) (next : AssemblyStep) : Outline :=
  let methods := next.methods constructorName outline.origin.isSome
  match outline.origin.or (next.origin? constructorName) with
  | none => { outline with before := outline.before ++ methods }
  | some origin =>
      ⟨outline.before, some origin, outline.after ++ methods, outline.data ++ next.data⟩

/-- Only methods stand around a constructor, and without one there is nothing after it. -/
structure WellFormed (outline : Outline) : Prop where
  plainBefore : ∀ member ∈ outline.before, Node.isPlainMember member = true
  plainAfter : ∀ member ∈ outline.after, Node.isPlainMember member = true
  nothingWithout : outline.origin = none → outline.after = [] ∧ outline.data = []

theorem isPlainMember_of_mem_methods {constructorName : String} {found : Bool}
    {next : AssemblyStep} {member : Json} (isMethod : member ∈ next.methods constructorName found) :
    Node.isPlainMember member = true := by
  cases next with
  | statics entries =>
      rcases List.mem_map.mp isMethod with ⟨entry, _, rfl⟩
      exact Node.isPlainMember_toMethod entry true
  | members derived entries =>
      rcases List.mem_map.mp isMethod with ⟨entry, _, rfl⟩
      exact Node.isPlainMember_toMethod entry false

theorem isPlainMember_of_mem_append_methods {constructorName : String} {found : Bool}
    {next : AssemblyStep} {members : List Json}
    (plain : ∀ member ∈ members, Node.isPlainMember member = true) :
    ∀ member ∈ members ++ next.methods constructorName found,
      Node.isPlainMember member = true := by
  intro member memberMem
  rcases List.mem_append.mp memberMem with isOld | isNew
  · exact plain member isOld
  · exact isPlainMember_of_mem_methods isNew

theorem WellFormed.step {outline : Outline} (wellFormed : outline.WellFormed)
    (constructorName : String) (next : AssemblyStep) :
    (outline.step constructorName next).WellFormed := by
  unfold Outline.step
  split
  · rename_i noOrigin
    refine ⟨isPlainMember_of_mem_append_methods wellFormed.plainBefore, wellFormed.plainAfter, ?_⟩
    intro originIs
    exact wellFormed.nothingWithout originIs
  · refine ⟨wellFormed.plainBefore, isPlainMember_of_mem_append_methods wellFormed.plainAfter, ?_⟩
    intro originIs
    simp at originIs

/--
An outline describes an assembly: they have the same body and agree on whether
there is a constructor. Where data was put into the constructor, it has statements.
-/
structure Describes (options : Options) (outline : Outline) (state : Assembly) : Prop where
  wellFormed : outline.WellFormed
  bodyIs : state.body = outline.body options.target
  producedIs : state.produced = outline.origin.isSome
  statementsRead : options.target = .es2015 → outline.data ≠ [] →
    ∃ origin statements, outline.origin = some origin ∧
      Node.constructorStatements origin.node = .ok (.arr statements)

theorem empty_describes (options : Options) : empty.Describes options Assembly.empty where
  wellFormed := ⟨by simp [empty], by simp [empty], fun _ => ⟨rfl, rfl⟩⟩
  bodyIs := rfl
  producedIs := rfl
  statementsRead := by simp [empty]

section Step

variable {options : Options} {outline : Outline} {state after : Assembly}

theorem statics_describes {entries : List MemberEntry} (describes : outline.Describes options state)
    (steps : state.step options (.statics entries) = .ok after) :
    (outline.step options.constructorName (.statics entries)).Describes options after := by
  simp only [Assembly.step, bind_eq_ok_iff, pure_eq_ok_iff] at steps
  rcases steps with ⟨added, appends, rfl⟩
  obtain rfl := StaticMembers.append_eq_ok appends
  have wellFormed := describes.wellFormed.step options.constructorName (.statics entries)
  cases originIs : outline.origin with
  | none =>
      have nothing := describes.wellFormed.nothingWithout originIs
      have stepIs : outline.step options.constructorName (.statics entries) =
          { outline with before := outline.before ++
              (entries.filter (·.isMethod)).map (·.toMethod true) } := by
        simp [Outline.step, originIs, AssemblyStep.origin?, AssemblyStep.methods]
      rw [stepIs] at wellFormed ⊢
      refine ⟨wellFormed, ?_, describes.producedIs, describes.statementsRead⟩
      simp [describes.bodyIs, body, originIs, nothing.1]
  | some origin =>
      have stepIs : outline.step options.constructorName (.statics entries) =
          { outline with after := outline.after ++
              (entries.filter (·.isMethod)).map (·.toMethod true) } := by
        simp [Outline.step, originIs, AssemblyStep.origin?, AssemblyStep.methods,
          AssemblyStep.data]
      rw [stepIs] at wellFormed ⊢
      refine ⟨wellFormed, ?_, describes.producedIs, describes.statementsRead⟩
      simp [describes.bodyIs, body, originIs]

/-- The first addition of instance members that needs a constructor gives the body its own. -/
theorem members_describes_of_none {derived : Bool} {entries : List MemberEntry}
    (describes : outline.Describes options state) (originIs : outline.origin = none)
    (steps : state.step options (.members derived entries) = .ok after) :
    (outline.step options.constructorName (.members derived entries)).Describes options after := by
  have wellFormed := describes.wellFormed.step options.constructorName (.members derived entries)
  have nothing := describes.wellFormed.nothingWithout originIs
  have notProduced : state.produced = false := by rw [describes.producedIs, originIs]; rfl
  have bodyIs : state.body = outline.before := by
    simp [describes.bodyIs, body, originIs, nothing.1]
  simp only [Assembly.step, bind_eq_ok_iff, pure_eq_ok_iff] at steps
  rcases steps with ⟨result, adds, rfl⟩
  rw [notProduced, bodyIs] at adds ⊢
  rcases InstanceMembers.add_eq_ok rfl adds with
    ⟨before, node, rest, seat, added, isProduced, hasList⟩ |
      ⟨noEntry, noData, _, added, isProduced⟩
  · have given : ∃ origin, (AssemblyStep.members derived entries).origin?
        options.constructorName = some origin ∧ node = origin.node ∧ before = outline.before ∧
          rest = [] := by
      cases seat with
      | taken entry isConstructor =>
          have isFound : entries.find? (·.isConstructorNamed options.constructorName) =
              some entry := isConstructor
          exact ⟨.taken entry, by simp [AssemblyStep.origin?, isFound], rfl, rfl, rfl⟩
      | present _ _ _ _ produced => simp at produced
      | synthesised noEntry _ hasData =>
          have notFound : entries.find? (·.isConstructorNamed options.constructorName) = none :=
            noEntry
          have hasData : entries.filter (!·.isMethod) ≠ [] := hasData
          exact ⟨.made derived, by simp [AssemblyStep.origin?, notFound, hasData], rfl, rfl, rfl⟩
    rcases given with ⟨origin, given, rfl, rfl, rfl⟩
    have stepIs : outline.step options.constructorName (.members derived entries) =
        ⟨outline.before, some origin,
          (AssemblyStep.members derived entries).methods options.constructorName false,
          (AssemblyStep.members derived entries).data⟩ := by
      simp [Outline.step, originIs, given, nothing]
    rw [stepIs] at wellFormed ⊢
    refine ⟨wellFormed, ?_, isProduced, ?_⟩
    · exact added
    · intro isInline hasData
      rcases hasList isInline hasData with ⟨statements, read⟩
      exact ⟨origin, statements, rfl, read⟩
  · have notGiven : (AssemblyStep.members derived entries).origin?
        options.constructorName = none := by
      have notFound : entries.find? (·.isConstructorNamed options.constructorName) = none :=
        noEntry
      have noData : entries.filter (!·.isMethod) = [] := noData
      simp [AssemblyStep.origin?, notFound, noData]
    have stepIs : outline.step options.constructorName (.members derived entries) =
        { outline with before := outline.before ++
            (AssemblyStep.members derived entries).methods options.constructorName false } := by
      simp [Outline.step, originIs, notGiven]
    rw [stepIs] at wellFormed ⊢
    refine ⟨wellFormed, ?_, ?_, describes.statementsRead⟩
    · simp only [added, body, originIs, nothing.1, List.append_nil]
      rfl
    · rw [isProduced, originIs]
      rfl

/-- Where there is a constructor, later data is placed at it and no other takes its place. -/
theorem members_describes_of_some {derived : Bool} {entries : List MemberEntry}
    {origin : ConstructorOrigin} (describes : outline.Describes options state)
    (originIs : outline.origin = some origin)
    (steps : state.step options (.members derived entries) = .ok after) :
    (outline.step options.constructorName (.members derived entries)).Describes options after := by
  have wellFormed := describes.wellFormed.step options.constructorName (.members derived entries)
  have isProduced : state.produced = true := by rw [describes.producedIs, originIs]; rfl
  have bodyIs : state.body = outline.before ++
      Placement.declaredFields options.target outline.data ++
        Placement.initialised options.target origin.node outline.data :: outline.after := by
    rw [describes.bodyIs, body, originIs]
  have constructorThere :
      ¬∀ member ∈ state.body, Node.isClassConstructor member = false := by
    intro noneThere
    have isConstructor := noneThere
      (Placement.initialised options.target origin.node outline.data) (by simp [bodyIs])
    simp at isConstructor
  have noEntry : (ClassifiedMembers.byRole (some options.constructorName) true
      entries).classConstructor = none := by
    rw [ClassifiedMembers.byRole_true]
  simp only [Assembly.step, bind_eq_ok_iff, pure_eq_ok_iff] at steps
  rcases steps with ⟨result, adds, rfl⟩
  rw [isProduced] at adds ⊢
  rcases InstanceMembers.add_eq_ok rfl adds with
    ⟨before, node, rest, seat, added, produced, hasList⟩ | ⟨_, _, noneThere, _, _⟩
  · cases seat with
    | taken entry isConstructor => simp [noEntry] at isConstructor
    | synthesised _ noneThere _ => exact absurd (noneThere rfl) constructorThere
    | present _ _ _ _ _ seatedBody isConstructor isFirst =>
        have firstBefore : ∀ member ∈ outline.before ++
            Placement.declaredFields options.target outline.data,
              Node.isClassConstructor member = false := by
          intro member memberMem
          rcases List.mem_append.mp memberMem with isPlain | isDeclared
          · exact Node.isClassConstructor_of_isPlainMember
              (describes.wellFormed.plainBefore member isPlain)
          · exact Placement.isClassConstructor_of_mem_declaredFields isDeclared
        rcases eq_of_isFirst isConstructor isFirst (by simp) firstBefore
          (seatedBody.symm.trans bodyIs) with ⟨rfl, rfl, rfl⟩
        have stepIs : outline.step options.constructorName (.members derived entries) =
            ⟨outline.before, some origin, outline.after ++
              (AssemblyStep.members derived entries).methods options.constructorName true,
              outline.data ++ (AssemblyStep.members derived entries).data⟩ := by
          simp [Outline.step, originIs]
        rw [stepIs] at wellFormed ⊢
        refine ⟨wellFormed, ?_, produced, ?_⟩
        · simp only [added, body, Placement.declaredFields_append,
            ← Placement.initialised_initialised, List.append_assoc]
          rfl
        · intro isInline hasData
          by_cases noneBefore : outline.data = []
          · rw [noneBefore, List.nil_append] at hasData
            rw [noneBefore, Placement.initialised_nil] at hasList
            rcases hasList isInline hasData with ⟨statements, read⟩
            exact ⟨origin, statements, rfl, read⟩
          · rcases describes.statementsRead isInline noneBefore with
              ⟨found, statements, foundIs, read⟩
            exact ⟨found, statements, originIs ▸ foundIs, read⟩
  · exact absurd (noneThere rfl) constructorThere

/-- A step on the assembly is the same step on its outline. -/
theorem Describes.step {next : AssemblyStep} (describes : outline.Describes options state)
    (steps : state.step options next = .ok after) :
    (outline.step options.constructorName next).Describes options after := by
  cases next with
  | statics entries => exact statics_describes describes steps
  | members derived entries =>
      cases originIs : outline.origin with
      | none => exact members_describes_of_none describes originIs steps
      | some origin => exact members_describes_of_some describes originIs steps

end Step

/-! ## Runs -/

/-- What a sequence of steps does to an outline. -/
def run (constructorName : String) (outline : Outline) (steps : List AssemblyStep) : Outline :=
  steps.foldl (·.step constructorName ·) outline

theorem Describes.run {options : Options} {outline : Outline} {state after : Assembly}
    {steps : List AssemblyStep} (describes : outline.Describes options state)
    (runs : state.run options steps = .ok after) :
    (outline.run options.constructorName steps).Describes options after := by
  induction steps generalizing outline state with
  | nil =>
      simp only [Assembly.run, Except.ok.injEq] at runs
      exact runs ▸ describes
  | cons next steps ih =>
      simp only [Assembly.run, bind_eq_ok_iff] at runs
      rcases runs with ⟨between, stepped, runs⟩
      exact ih (describes.step stepped) runs

section Contents

variable (outline : Outline) (constructorName : String)

theorem origin_step (next : AssemblyStep) :
    (outline.step constructorName next).origin =
      outline.origin.or (next.origin? constructorName) := by
  unfold Outline.step
  cases originIs : outline.origin.or (next.origin? constructorName) with
  | none => exact (Option.or_eq_none_iff.mp originIs).1
  | some origin => rfl

/-- A step without a constructor of its own has no data. -/
theorem data_eq_nil_of_origin? {next : AssemblyStep}
    (notGiven : next.origin? constructorName = none) : next.data = [] := by
  cases next with
  | statics entries => rfl
  | members derived entries =>
      simp only [AssemblyStep.origin?] at notGiven
      split at notGiven
      · simp at notGiven
      · split at notGiven
        · assumption
        · simp at notGiven

theorem data_step (next : AssemblyStep) :
    (outline.step constructorName next).data = outline.data ++ next.data := by
  unfold Outline.step
  cases originIs : outline.origin.or (next.origin? constructorName) with
  | none =>
      have notGiven := (Option.or_eq_none_iff.mp originIs).2
      simp [data_eq_nil_of_origin? constructorName notGiven]
  | some origin => rfl

theorem members_step (wellFormed : outline.WellFormed) (next : AssemblyStep) :
    (outline.step constructorName next).before ++ (outline.step constructorName next).after =
      outline.before ++ outline.after ++
        next.methods constructorName outline.origin.isSome := by
  unfold Outline.step
  cases originIs : outline.origin.or (next.origin? constructorName) with
  | none =>
      have nothing := wellFormed.nothingWithout (Option.or_eq_none_iff.mp originIs).1
      simp [nothing.1]
  | some origin => simp

theorem origin_run (steps : List AssemblyStep) :
    (outline.run constructorName steps).origin =
      outline.origin.or (AssemblyStep.originOf constructorName steps) := by
  induction steps generalizing outline with
  | nil => simp [run, AssemblyStep.originOf]
  | cons next steps ih =>
      have later := ih (outline.step constructorName next)
      rw [origin_step, Option.or_assoc] at later
      refine later.trans ?_
      rw [AssemblyStep.originOf, AssemblyStep.originOf, List.findSome?_cons]
      cases next.origin? constructorName <;> rfl

theorem data_run (steps : List AssemblyStep) :
    (outline.run constructorName steps).data = outline.data ++ AssemblyStep.dataOf steps := by
  induction steps generalizing outline with
  | nil => simp [run, AssemblyStep.dataOf]
  | cons next steps ih =>
      have later := ih (outline.step constructorName next)
      rw [data_step, List.append_assoc] at later
      exact later

theorem members_run (wellFormed : outline.WellFormed) (steps : List AssemblyStep) :
    (outline.run constructorName steps).before ++ (outline.run constructorName steps).after =
      outline.before ++ outline.after ++
        AssemblyStep.methodsOf constructorName outline.origin.isSome steps := by
  induction steps generalizing outline with
  | nil => simp [run, AssemblyStep.methodsOf]
  | cons next steps ih =>
      have later := ih _ (wellFormed.step constructorName next)
      rw [members_step _ _ wellFormed, origin_step, List.append_assoc] at later
      refine later.trans ?_
      rw [AssemblyStep.methodsOf, Option.isSome_or]

end Contents

section Body

variable {outline : Outline} (wellFormed : outline.WellFormed) (target : Target)
include wellFormed

theorem countP_isClassConstructor_body :
    (outline.body target).countP Node.isClassConstructor = outline.origin.toList.length := by
  have noneBefore : outline.before.countP Node.isClassConstructor = 0 := by
    rw [List.countP_eq_zero]
    intro member memberMem
    simp [Node.isClassConstructor_of_isPlainMember (wellFormed.plainBefore member memberMem)]
  have noneAfter : outline.after.countP Node.isClassConstructor = 0 := by
    rw [List.countP_eq_zero]
    intro member memberMem
    simp [Node.isClassConstructor_of_isPlainMember (wellFormed.plainAfter member memberMem)]
  have noneDeclared :
      (Placement.declaredFields target outline.data).countP Node.isClassConstructor = 0 := by
    rw [List.countP_eq_zero]
    intro member memberMem
    simp [Placement.isClassConstructor_of_mem_declaredFields memberMem]
  cases originIs : outline.origin with
  | none => simp [body, originIs, noneBefore, noneAfter]
  | some origin => simp [body, originIs, noneBefore, noneAfter, noneDeclared]

theorem filter_isPlainMember_body :
    (outline.body target).filter Node.isPlainMember = outline.before ++ outline.after := by
  have allBefore := List.filter_eq_self.mpr wellFormed.plainBefore
  have allAfter := List.filter_eq_self.mpr wellFormed.plainAfter
  have noneDeclared :
      (Placement.declaredFields target outline.data).filter Node.isPlainMember = [] := by
    rw [List.filter_eq_nil_iff]
    intro member memberMem
    simp [Node.isPlainMember, Placement.isField_of_mem_declaredFields memberMem]
  cases originIs : outline.origin with
  | none => simp only [body, originIs, List.filter_append, allBefore, allAfter]
  | some origin =>
      have notPlain : Node.isPlainMember
          (Placement.initialised target origin.node outline.data) = false := by
        simp [Node.isPlainMember]
      simp only [body, originIs, List.filter_append, List.filter_cons, allBefore, allAfter,
        noneDeclared, notPlain, List.append_nil, Bool.false_eq_true, if_false]

theorem isField_of_mem_around {member : Json} (around : member ∈ outline.before ++ outline.after) :
    Node.isField member = false := by
  rcases List.mem_append.mp around with isBefore | isAfter
  · exact Node.isField_of_isPlainMember (wellFormed.plainBefore member isBefore)
  · exact Node.isField_of_isPlainMember (wellFormed.plainAfter member isAfter)

end Body

end Outline

namespace Assembly

/-- The fields of a class body are the given data, in one block that ends at the constructor. -/
def DeclaresInOneBlock (data : List MemberEntry) (state : Assembly) : Prop :=
  ∃ before after : List Json,
    state.body = before ++
      (data.map fun entry =>
        Node.propertyDefinition entry.key entry.value (.bool entry.computed)) ++ after ∧
    (∀ member ∈ before ++ after, Node.isField member = false) ∧
    (data ≠ [] → state.produced = true) ∧
    (state.produced = true →
      ∃ node rest, after = node :: rest ∧ Node.isClassConstructor node = true)

/-- The constructor has the statements of its origin and then one for each of the given data. -/
def InitialisesInConstructor (origin? : Option ConstructorOrigin) (data : List MemberEntry)
    (state : Assembly) : Prop :=
  ∃ origin original before node after,
    origin? = some origin ∧
    origin.statements = some original ∧
    state.body = before ++ node :: after ∧
    Node.isClassConstructor node = true ∧
    Node.constructorStatements node =
      .ok (.arr (original ++ data.map (·.assignedTo Node.thisExpression)))

/-- What is true of a class body that was assembled from nothing in the given steps. -/
structure Invariant (options : Options) (steps : List AssemblyStep) (state : Assembly) : Prop where
  atMostOne : state.body.countP Node.isClassConstructor ≤ 1
  oneIffProduced : state.body.countP Node.isClassConstructor = 1 ↔ state.produced = true
  fieldsInOneBlock : options.target = .es2017 →
    state.DeclaresInOneBlock (AssemblyStep.dataOf steps)
  noFields : options.target = .es2015 → ∀ member ∈ state.body, Node.isField member = false
  dataInConstructor : options.target = .es2015 → AssemblyStep.dataOf steps ≠ [] →
    state.InitialisesInConstructor (AssemblyStep.originOf options.constructorName steps)
      (AssemblyStep.dataOf steps)
  methodsInOrder : state.body.filter Node.isPlainMember =
    AssemblyStep.methodsOf options.constructorName false steps

section Reached

variable {options : Options} {outline : Outline} {state : Assembly}
  (describes : outline.Describes options state)
include describes

theorem declaresInOneBlock_of_describes (declares : options.target = .es2017) :
    state.DeclaresInOneBlock outline.data := by
  have bodyIs := describes.bodyIs
  have producedIs := describes.producedIs
  rw [declares, Outline.body] at bodyIs
  cases originIs : outline.origin with
  | none =>
      have nothing := describes.wellFormed.nothingWithout originIs
      rw [originIs] at bodyIs producedIs
      refine ⟨outline.before, outline.after, ?_, ?_, ?_, ?_⟩
      · rw [bodyIs, nothing.2, List.map_nil, List.append_nil]
      · intro member around
        exact Outline.isField_of_mem_around describes.wellFormed around
      · intro hasData
        exact absurd nothing.2 hasData
      · intro produced
        simp [producedIs] at produced
  | some origin =>
      rw [originIs] at bodyIs producedIs
      refine ⟨outline.before, origin.node :: outline.after, ?_, ?_, ?_, ?_⟩
      · exact bodyIs
      · intro member around
        rcases List.mem_append.mp around with isBefore | isAfter
        · exact Outline.isField_of_mem_around describes.wellFormed
            (List.mem_append_left _ isBefore)
        · rcases List.mem_cons.mp isAfter with rfl | isAfter
          · exact origin.isField_node
          · exact Outline.isField_of_mem_around describes.wellFormed
              (List.mem_append_right _ isAfter)
      · intro _
        exact producedIs
      · intro _
        exact ⟨origin.node, outline.after, rfl, origin.isClassConstructor_node⟩

theorem noFields_of_describes (inline : options.target = .es2015) :
    ∀ member ∈ state.body, Node.isField member = false := by
  intro member memberMem
  rw [describes.bodyIs, inline, Outline.body] at memberMem
  cases originIs : outline.origin with
  | none =>
      rw [originIs] at memberMem
      exact Outline.isField_of_mem_around describes.wellFormed memberMem
  | some origin =>
      simp only [originIs, Placement.declaredFields, List.append_nil, List.mem_append,
        List.mem_cons] at memberMem
      rcases memberMem with isBefore | rfl | isAfter
      · exact Outline.isField_of_mem_around describes.wellFormed (List.mem_append_left _ isBefore)
      · simp
      · exact Outline.isField_of_mem_around describes.wellFormed (List.mem_append_right _ isAfter)

theorem initialisesInConstructor_of_describes (inline : options.target = .es2015)
    (hasData : outline.data ≠ []) : state.InitialisesInConstructor outline.origin outline.data := by
  rcases describes.statementsRead inline hasData with ⟨origin, original, originIs, read⟩
  refine ⟨origin, original, outline.before,
    Node.appendStatements origin.node (Placement.thisAssignments outline.data), outline.after,
    originIs, ConstructorOrigin.statements_of_read read, ?_, ?_, ?_⟩
  · rw [describes.bodyIs, Outline.body, originIs, inline]
    simp [Placement.declaredFields, Placement.initialised]
  · simp
  · exact Node.constructorStatements_appendStatements read _

end Reached

/--
Whatever tables are added to an empty class body, and in whatever order, the body
that they lead to has at most one constructor, the data of all of them at it in
the order of the additions, and their methods in that order.
-/
theorem run_invariant {options : Options} {steps : List AssemblyStep} {state : Assembly}
    (runs : empty.run options steps = .ok state) : state.Invariant options steps := by
  have describes := (Outline.empty_describes options).run runs
  have dataIs : _ = AssemblyStep.dataOf steps :=
    Outline.empty.data_run options.constructorName steps
  have originIs : _ = AssemblyStep.originOf options.constructorName steps :=
    Outline.empty.origin_run options.constructorName steps
  have membersAre := Outline.empty.members_run options.constructorName
    (Outline.empty_describes options).wellFormed steps
  have count := Outline.countP_isClassConstructor_body describes.wellFormed options.target
  rw [← describes.bodyIs] at count
  exact {
    atMostOne := by
      rw [count]
      exact Option.length_toList_le
    oneIffProduced := by
      rw [count, describes.producedIs]
      cases (Outline.run options.constructorName .empty steps).origin <;> simp
    fieldsInOneBlock := by
      rw [← dataIs]
      exact declaresInOneBlock_of_describes describes
    noFields := noFields_of_describes describes
    dataInConstructor := by
      rw [← dataIs, ← originIs]
      exact initialisesInConstructor_of_describes describes
    methodsInOrder := by
      rw [describes.bodyIs, Outline.filter_isPlainMember_body describes.wellFormed]
      exact membersAre }

/-- A method and data, a constructor for a derived class, and more data and methods later. -/
def sampleSteps : List AssemblyStep :=
  let function :=
    Node.functionExpression .null .null .null (.bool false) (.bool false) (.bool false)
  let entry (name : String) (value : Json) : MemberEntry :=
    ⟨Node.identifier (.str name), value, false, .str "init"⟩
  [.statics [entry "create" function, entry "count" (Node.literal (.int 0))],
    .members false [entry "show" function],
    .members true [entry "label" (Node.literal (.str "ok")), entry "init" function],
    .statics [entry "reset" function],
    .members false [entry "init" function, entry "size" (Node.literal (.int 3))]]

theorem run_invariant_sampleSteps :
    ∃ state, empty.run .default sampleSteps = .ok state ∧ state.body.length = 5 ∧
      state.Invariant .default sampleSteps :=
  ⟨_, rfl, rfl, run_invariant rfl⟩

end Assembly

end ClassLift

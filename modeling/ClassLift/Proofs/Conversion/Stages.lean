import ClassLift.Conversion
import ClassLift.Proofs.ClassBody.Addition
import ClassLift.Proofs.Member.Table
import ClassLift.Proofs.Namespace.Scope

/-!
# The stages of a conversion

A conversion that succeeds has gone through a fixed sequence of stages. They are
collected in `Conversion.Stages`, which leaves out one of them: the addition of
the instance members, the only one that depends on the target. A conversion
succeeds exactly if its stages do and that addition does.
-/

namespace ClassLift

namespace Conversion

/-- The results of the stages of a conversion, without the addition of instance members. -/
structure Stages (options : Options) (parameters : Json) where
  arguments : Arguments
  text : String
  path : NamespacePath
  statics : MemberTable
  members : MemberTable
  extension : ClassShell.Extension
  trailing : List Json
  argumentsRead : Arguments.ofJson parameters = .ok arguments
  nameRead : namespaceOf arguments.name = .ok (.str text)
  pathRead : NamespacePath.parse (.str text) = .ok path
  staticsRead : (readStatics arguments.statics).outcome = .ok statics
  membersRead : (MemberTable.read arguments.members arguments.count).outcome = .ok members
  shellExtended : (extendShell options
    (ClassShell.ofPath (Scope.withAlias ⟨options.rootObject, []⟩ path) path)
    (Scope.withAlias ⟨options.rootObject, []⟩ path)).outcome = .ok extension
  staticsAppended : (StaticMembers.append statics.entries []).outcome = .ok
    ⟨(statics.entries.filter (·.isMethod)).map (·.toMethod true),
      statics.entries.filter (!·.isMethod)⟩
  staticsAssigned : StaticMembers.assignments extension.scope path
    (statics.entries.filter (!·.isMethod)) = .ok trailing

namespace Stages

variable {options : Options} {parameters : Json} (stages : Stages options parameters)

/-- The class body before instance members are added to it. -/
def staticBody : List Json :=
  (stages.statics.entries.filter (·.isMethod)).map (·.toMethod true)

/-- The addition of the instance members. -/
def addition : InstanceMembers.Added :=
  InstanceMembers.add options false stages.extension.shell.superClass.isSome
    stages.members.entries stages.staticBody

/-- The statements before the class. -/
def opening : List Json :=
  Scope.guards ⟨options.rootObject, []⟩ stages.path ++
    ((Scope.newAlias? ⟨options.rootObject, []⟩ stages.path).map
      (Scope.aliasStatement ⟨options.rootObject, []⟩)).toList ++
    stages.extension.statements

/-- The conversion with the given class body. -/
def conversion (body : List Json) : Conversion where
  path := stages.path
  className := stages.extension.shell.name
  warnings := stages.statics.warnings ++ stages.members.warnings ++ stages.extension.warnings
  statements := stages.opening ++ [stages.extension.shell.statement body] ++ stages.trailing

end Stages

/-- The namespace is the value of a string literal. -/
theorem namespaceOf_eq_ok {name dotted : Json} (read : namespaceOf name = .ok dotted) :
    ∃ fields text, name = .obj fields ∧ dotted = .str text ∧
      name.field? "type" = some (.str "Literal") ∧ name.field? "value" = some (.str text) := by
  cases name with
  | obj fields =>
      simp only [namespaceOf] at read
      rcases bind_eq_ok_iff.mp read with ⟨type, typeRead, read⟩
      split at read
      · rename_i isLiteral
        rcases bind_eq_ok_iff.mp read with ⟨value, valueRead, read⟩
        have typeIs := Json.field_eq_ok typeRead
        have valueIs := Json.field_eq_ok valueRead
        rw [Json.isStr_iff] at isLiteral
        subst isLiteral
        cases value with
        | str text =>
            rw [pure_eq_ok_iff] at read
            refine ⟨fields, text, rfl, read.symm, ?_, ?_⟩
            · cases found : (Json.obj fields).field? "type" with
              | none => simp [found] at typeIs
              | some other => simpa [found] using typeIs.symm
            · cases found : (Json.obj fields).field? "value" with
              | none => simp [found] at valueIs
              | some other => simpa [found] using valueIs.symm
        | null | bool | int | float | arr | obj =>
            simp at read
      · simp at read
  | null | bool | int | float | str | arr => simp [namespaceOf] at read

/-- The arguments of a call whose first one is an object are the two or three items of a list. -/
theorem Arguments.ofJson_eq_ok {parameters : Json} {arguments : Arguments}
    {fields : List (String × Json)} (nameIs : arguments.name = .obj fields)
    (read : ofJson parameters = .ok arguments) :
    parameters = .arr (arguments.name :: arguments.statics.toList ++ [arguments.members]) := by
  unfold ofJson at read
  split at read
  · simp [bind_eq_ok_iff] at read
  rcases bind_eq_ok_iff.mp read with ⟨count, _, counted⟩
  split at counted
  · simp [bind_eq_ok_iff] at counted
  rcases bind_eq_ok_iff.mp counted with ⟨name, firstRead, named⟩
  rcases bind_eq_ok_iff.mp named with ⟨items, itemsRead, taken⟩
  have nameIs : name = .obj fields := by
    rw [← nameIs]
    split at taken
    · rw [pure_eq_ok_iff] at taken
      rw [← taken]
    · rw [pure_eq_ok_iff] at taken
      rw [← taken]
    · simp at taken
  cases parameters with
  | arr listed =>
      simp only [Json.elements, Except.ok.injEq] at itemsRead
      subst itemsRead
      split at taken
      · rw [pure_eq_ok_iff] at taken
        simp only [Json.first, Except.ok.injEq] at firstRead
        simp [← taken, firstRead]
      · rw [pure_eq_ok_iff] at taken
        simp only [Json.first, Except.ok.injEq] at firstRead
        simp [← taken, firstRead]
      · simp at taken
  | str text =>
      simp only [Json.first, nameIs] at firstRead
      split at firstRead
      · simp at firstRead
      · simp at firstRead
  | null | bool | int | float | obj => simp [Json.first] at firstRead

/-- A conversion that succeeds has gone through its stages and added the instance members. -/
theorem exists_stages {options : Options} {parameters : Json} {conversion : Conversion}
    (converts : (ofParameters options parameters).outcome = .ok conversion) :
    ∃ (stages : Stages options parameters) (result : InstanceMembers),
      stages.addition.members.outcome = .ok result ∧
        conversion = stages.conversion stages.addition.body := by
  simp only [ofParameters, Traced.outcome_bind, Traced.outcome_liftM, Scope.resolve_outcome,
    Traced.outcome_record, Traced.outcome_pure, bind_eq_ok_iff, Except.ok.injEq] at converts
  rcases converts with ⟨arguments, argumentsRead, dotted, nameRead, path, pathRead, statics,
    staticsRead, members, membersRead, _, rfl, extension, extended, staticMembers, appended,
    result, added, trailing, trailed, _, _, conversionIs⟩
  obtain rfl := StaticMembers.append_eq_ok appended
  rcases namespaceOf_eq_ok nameRead with ⟨_, text, _, rfl, _⟩
  refine ⟨⟨arguments, text, path, statics, members, extension, trailing, argumentsRead, nameRead,
    pathRead, staticsRead, membersRead, extended, appended, trailed⟩, result, added, ?_⟩
  rw [← conversionIs]
  rfl

/-- Stages and an addition of instance members that succeeds make a conversion. -/
theorem Stages.ofParameters_eq_ok {options : Options} {parameters : Json}
    (stages : Stages options parameters) {result : InstanceMembers}
    (adds : stages.addition.members.outcome = .ok result) :
    (ofParameters options parameters).outcome =
      .ok (stages.conversion stages.addition.body) := by
  simp only [ofParameters, Traced.outcome_bind, Traced.outcome_liftM, Scope.resolve_outcome,
    Traced.outcome_record, Traced.outcome_pure, bind_eq_ok_iff, Except.ok.injEq]
  exact ⟨stages.arguments, stages.argumentsRead, _, stages.nameRead, stages.path, stages.pathRead,
    stages.statics, stages.staticsRead, stages.members, stages.membersRead, _, rfl,
    stages.extension, stages.shellExtended, _, stages.staticsAppended, result, adds,
    stages.trailing, stages.staticsAssigned, (), trivial, rfl⟩

/-- The entries of the table of statics, which may be missing. -/
def Arguments.staticEntries (arguments : Arguments) : List MemberEntry :=
  (arguments.statics.map MemberTable.keptEntries).getD []

/-- The entries of the table of instance members. -/
def Arguments.memberEntries (arguments : Arguments) : List MemberEntry :=
  MemberTable.keptEntries arguments.members

theorem readStatics_entries {arguments : Arguments} {table : MemberTable}
    (read : (readStatics arguments.statics).outcome = .ok table) :
    table.entries = arguments.staticEntries := by
  unfold Arguments.staticEntries
  cases staticsAre : arguments.statics with
  | none =>
      rw [staticsAre] at read
      simp only [readStatics, Traced.outcome_pure, Except.ok.injEq] at read
      rw [← read]
      rfl
  | some node =>
      rw [staticsAre] at read
      exact (MemberTable.read_entries read).1

namespace Stages

variable {options : Options} {parameters : Json} (stages : Stages options parameters)

/-- The parameters are a list of a string literal and one or two tables. -/
theorem parameters_eq :
    parameters = .arr (stages.arguments.name :: stages.arguments.statics.toList ++
        [stages.arguments.members]) ∧
      stages.arguments.name.field? "type" = some (.str "Literal") ∧
      stages.arguments.name.field? "value" = some (.str stages.text) := by
  rcases namespaceOf_eq_ok stages.nameRead with ⟨fields, text, nameIs, textIs, type, value⟩
  rw [Json.str.injEq] at textIs
  rw [textIs]
  exact ⟨Arguments.ofJson_eq_ok nameIs stages.argumentsRead, type, value⟩

theorem statics_entries : stages.statics.entries = stages.arguments.staticEntries :=
  readStatics_entries stages.staticsRead

theorem members_entries : stages.members.entries = stages.arguments.memberEntries :=
  (MemberTable.read_entries stages.membersRead).1

end Stages

end Conversion

end ClassLift

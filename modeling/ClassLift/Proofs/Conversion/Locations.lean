import ClassLift.Proofs.ClassBody.Locations
import ClassLift.Proofs.Conversion.Paths
import ClassLift.Proofs.Conversion.Verdict

/-!
# Conversions without locations

The locations of a call have no influence on its conversion: nothing is decided
by them, and in the result they stand only in copied parts. A call without
locations is therefore converted to what the program of the call is without
locations, or it fails for the same reason. The comparison follows the stages of
a conversion from the first to the last.
-/

namespace ClassLift

open Json (stripLocations)

/-- A run that does not depend on locations compares with itself if its failures tell none. -/
theorem StripsTo.refl {α : Type} {outcome : Except Failure α}
    (bare : ∀ failure, outcome = .error failure → failure.stripLocations = failure) :
    StripsTo (· = ·) outcome outcome := by
  cases outcome with
  | ok value => exact .succeeds rfl
  | error failure =>
      have compares : StripsTo (α := α) (· = ·) (.error failure) (.error failure.stripLocations) :=
        .fails failure
      rw [bare failure rfl] at compares
      exact compares

/-- A namespace that is refused is told as a string. -/
theorem NamespacePath.stripLocations_of_parse {text : String} {failure : Failure}
    (fails : parse (.str text) = .error failure) : failure.stripLocations = failure := by
  simp only [parse] at fails
  split at fails
  · obtain rfl := Except.error.inj fails
    rfl
  split at fails
  · obtain rfl := Except.error.inj fails
    rfl
  split at fails
  · simp at fails
  · obtain rfl := Except.error.inj fails
    rfl

theorem Options.stripLocations_of_extendedPath {options : Options} {failure : Failure}
    (fails : options.extendedPath = .error failure) : failure.stripLocations = failure := by
  unfold extendedPath at fails
  split at fails
  · simp at fails
  simp only at fails
  split at fails
  · simp at fails
  · rename_i dotted _ _
    cases parses : NamespacePath.parse (.str (Text.trimmed dotted)) with
    | ok path => simp [parses, Functor.map, Except.map] at fails
    | error other =>
        obtain rfl : other = failure := by simpa [parses, Functor.map, Except.map] using fails
        exact NamespacePath.stripLocations_of_parse parses

namespace Layout

/-- The statements before the class have no locations. -/
theorem map_stripLocations_opening (options : Options) (segments : List String) :
    (opening options segments).map stripLocations = opening options segments := by
  have eachStays : ∀ statement ∈ opening options segments,
      statement.stripLocations = id statement := by
    intro statement isOpening
    rcases mem_opening isOpening with ⟨names, rfl⟩ | ⟨name, rfl⟩
    · simp
    · simp [constant]
  rw [List.map_congr_left eachStays, List.map_id]

@[simp]
theorem stripLocations_access (rootObject : String) (segments : List String) :
    (Scope.access rootObject segments).stripLocations = Scope.access rootObject segments := by
  unfold Scope.access
  split <;> simp

@[simp]
theorem stripLocations_superclass (rootObject : String) (segments? : Option (List String)) :
    (superclass rootObject segments?).stripLocations = superclass rootObject segments? := by
  cases segments? <;> simp [superclass]

/-- A class without locations has its members without them. -/
theorem stripLocations_classStatement (options : Options) (path : NamespacePath)
    (members : List Json) :
    (classStatement options path members).stripLocations =
      classStatement options path (members.map stripLocations) := by
  simp [classStatement]

end Layout

namespace Conversion

/-- The arguments of a call without locations. -/
def Arguments.stripLocations (arguments : Arguments) : Arguments where
  name := arguments.name.stripLocations
  statics := arguments.statics.map (·.stripLocations)
  members := arguments.members.stripLocations

@[simp]
theorem Arguments.count_stripLocations (arguments : Arguments) :
    arguments.stripLocations.count = arguments.count := by
  simp [count, stripLocations]

theorem Arguments.ofJson_stripsTo {items : List Json}
    (plain : ∀ table ∈ items.tail, MemberTable.isPlain table = true) :
    StripsTo
      (fun arguments bare => arguments.stripLocations = bare ∧
        ∀ table ∈ arguments.statics.toList ++ [arguments.members],
          MemberTable.isPlain table = true)
      (ofJson (.arr items)) (ofJson (Json.arr items).stripLocations) := by
  rw [Json.stripLocations_arr]
  match items, plain with
  | [], _ => exact .fails _
  | [_], _ => exact .fails _
  | [name, members], plain => exact .succeeds ⟨rfl, plain⟩
  | [name, statics, members], plain => exact .succeeds ⟨rfl, plain⟩
  | _ :: _ :: _ :: _ :: _, _ =>
      rw [ofJson_of_length (by simp) (by simp) (by simp),
        ofJson_of_length (by simp) (by simp) (by simp), List.length_map]
      exact .fails _

theorem namespaceOf_stripsTo (name : Json) :
    StripsTo (· = ·) (namespaceOf name) (namespaceOf name.stripLocations) := by
  cases name with
  | obj fields =>
      apply (Json.field_stripsTo "type" rfl (.obj fields)).bind
      rintro type _ _ rfl
      rw [Json.isStr_stripLocations]
      split
      · apply (Json.field_stripsTo "value" rfl (.obj fields)).bind
        rintro value _ _ rfl
        cases value with
        | str text => exact .succeeds rfl
        | null | bool | int | float | arr | obj => exact .fails _
      · exact .fails _
  | null | bool | int | float | str | arr => exact .fails _

theorem stripLocations_of_extendShell {options : Options} {shell : ClassShell} {scope : Scope}
    {failure : Failure} (fails : (extendShell options shell scope).outcome = .error failure) :
    failure.stripLocations = failure := by
  unfold extendShell at fails
  split at fails
  · simp only [Traced.outcome_bind, Traced.outcome_liftM] at fails
    cases read : options.extendedPath with
    | error other =>
        obtain rfl : other = failure := by simpa [read, error_bind] using fails
        exact Options.stripLocations_of_extendedPath read
    | ok path? =>
        rw [read, ok_bind] at fails
        cases path? with
        | none => simp [ClassShell.extend, ok_bind] at fails
        | some path => simp [ClassShell.extend_some_outcome] at fails
  · simp at fails

section Statics

variable {statics : Option Json} (plain : ∀ table ∈ statics, MemberTable.isPlain table = true)
include plain

theorem readStatics_stripsTo :
    StripsTo (·.stripLocations = ·) (readStatics statics).outcome
      (readStatics (statics.map (·.stripLocations))).outcome := by
  cases statics with
  | none => exact .succeeds rfl
  | some node => exact MemberTable.read_stripsTo (plain node rfl) 2

theorem hasPlainFlags_of_readStatics {table : MemberTable}
    (read : (readStatics statics).outcome = .ok table) {entry : MemberEntry}
    (isEntry : entry ∈ table.entries) : Node.hasPlainFlags entry.value = true := by
  cases statics with
  | none =>
      obtain rfl : ⟨[], []⟩ = table := by simpa [readStatics] using read
      simp at isEntry
  | some node => exact MemberTable.hasPlainFlags_of_read (plain node rfl) read isEntry

end Statics

/-- How a conversion and the one without locations compare. -/
structure HasBare (conversion bare : Conversion) : Prop where
  namespaceIs : bare.namespaceText = conversion.namespaceText
  classNameIs : bare.className = conversion.className
  warningsAre : bare.warnings = conversion.warnings
  programIs : bare.program = conversion.program.stripLocations

/-- The statements of a conversion, its locations stripped, with the class body that is left. -/
theorem Stages.map_stripLocations_statements {options : Options} {parameters : Json}
    (stages : Stages options parameters) (body : List Json) :
    (stages.conversion body).statements.map stripLocations =
      stages.opening ++ [stages.extension.shell.statement (body.map stripLocations)] ++
        stages.trailing.map stripLocations := by
  rw [Stages.conversion, stages.opening_eq, stages.classStatement_eq, stages.classStatement_eq,
    List.map_append, List.map_append, Layout.map_stripLocations_opening, List.map_singleton,
    Layout.stripLocations_classStatement]

/--
Stripping locations commutes with conversion: a call without locations fails as
the call with them does, or both are converted, to the same namespace, class name
and warnings, and to programs that differ in locations only.
-/
theorem ofParameters_stripsTo (options : Options) {items : List Json}
    (plain : ∀ table ∈ items.tail, MemberTable.isPlain table = true) :
    StripsTo HasBare (ofParameters options (.arr items)).outcome
      (ofParameters options (Json.arr items).stripLocations).outcome := by
  simp only [ofParameters, Traced.outcome_bind, Traced.outcome_liftM, Scope.resolve_outcome,
    Traced.outcome_record, Traced.outcome_pure, ok_bind]
  apply (Arguments.ofJson_stripsTo plain).bind
  rintro arguments _ argumentsRead ⟨rfl, tablesPlain⟩
  have staticsPlain : ∀ table ∈ arguments.statics, MemberTable.isPlain table = true :=
    fun table isTable => tablesPlain table (by simp [Option.mem_def.mp isTable])
  have membersPlain := tablesPlain arguments.members (by simp)
  apply (namespaceOf_stripsTo arguments.name).bind
  rintro dotted _ nameRead rfl
  obtain ⟨_, text, _, rfl, _⟩ := namespaceOf_eq_ok nameRead
  apply (StripsTo.refl fun _ => NamespacePath.stripLocations_of_parse).bind
  rintro path _ pathRead rfl
  apply (readStatics_stripsTo staticsPlain).bind
  rintro statics _ staticsRead rfl
  rw [Arguments.count_stripLocations]
  apply (MemberTable.read_stripsTo membersPlain arguments.count).bind
  rintro members _ membersRead rfl
  apply (StripsTo.refl fun _ => stripLocations_of_extendShell).bind
  rintro extension _ extends_ rfl
  apply (StaticMembers.append_stripsTo
    (fun _ => hasPlainFlags_of_readStatics staticsPlain staticsRead) []).bind
  rintro staticMembers _ appends rfl
  have adds := InstanceMembers.add_hasBare options extension.shell.superClass.isSome
    (fun _ => MemberTable.hasPlainFlags_of_read membersPlain membersRead) staticMembers.body
  apply adds.membersCompare.bind
  rintro _ _ _ _
  apply (StaticMembers.assignments_stripsTo extension.scope path staticMembers.data).bind
  rintro trailing _ assigns rfl
  -- With all stages behind it, the statements of the run are those of the layout.
  obtain rfl := StaticMembers.append_eq_ok appends
  let stages : Stages options (.arr items) := ⟨arguments, text, path, statics, members, extension,
    trailing, argumentsRead, nameRead, pathRead, staticsRead, membersRead, extends_, appends,
    assigns⟩
  have statementsAre := stages.map_stripLocations_statements stages.addition.body
  have bodyIs : _ = stages.addition.body.map stripLocations := adds.bodyIs
  rw [← bodyIs] at statementsAre
  refine .succeeds ⟨rfl, rfl, rfl, ?_⟩
  rw [Conversion.program, Conversion.program, Node.stripLocations_program, Json.stripLocations_arr]
  exact congrArg (Node.program ∘ Json.arr) statementsAre.symm

/-- The arguments of a call as a parser gives them, with places in the source. -/
def locatedCall : List Json :=
  let located (start : Int) (type : String) (fields : List (String × Json)) : Json :=
    Node.ofType type (("start", .int start) :: ("loc", .obj [("line", .int 1)]) :: fields)
  let function := located 52 "FunctionExpression" [("generator", .bool false),
    ("params", .arr [located 62 "Identifier" [("name", .str "label")]]),
    ("body", located 69 "BlockStatement" [("body", .arr [])])]
  let property (start : Int) (name : String) (value : Json) : Json :=
    located start "Property" [("key", located start "Identifier" [("name", .str name)]),
      ("computed", .bool false), ("value", value)]
  [located 8 "Literal" [("value", .str "app.Button")],
    located 22 "ObjectExpression" [("properties", .arr [
      property 24 "size" (located 30 "Literal" [("value", .int 1)]), property 46 "init" function,
      located 74 "SpreadElement" [("argument", located 77 "Identifier" [("name", .str "base")])]])]]

theorem ofParameters_stripsTo_locatedCall :
    (∀ table ∈ locatedCall.tail, MemberTable.isPlain table = true) ∧
      (∃ conversion bare, (ofParameters .default (.arr locatedCall)).outcome = .ok conversion ∧
        (ofParameters .default (Json.arr locatedCall).stripLocations).outcome = .ok bare ∧
        bare.program ≠ conversion.program) ∧
      StripsTo HasBare (ofParameters .default (.arr locatedCall)).outcome
        (ofParameters .default (Json.arr locatedCall).stripLocations).outcome := by
  have plain : ∀ table ∈ locatedCall.tail, MemberTable.isPlain table = true := by decide
  exact ⟨plain, ⟨_, _, rfl, rfl, by decide +kernel⟩, ofParameters_stripsTo .default plain⟩

end Conversion

end ClassLift

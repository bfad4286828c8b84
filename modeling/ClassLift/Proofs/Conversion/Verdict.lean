import ClassLift.Proofs.Conversion.Layout
import ClassLift.Proofs.Member.Shape
import ClassLift.Proofs.Namespace.Path

/-!
# When a call is refused

A class-definition call can be refused in many places: its arguments are counted,
its name is read, then its tables, and at the end the name of the superclass. If
its tables are well-shaped, a decision list gives the verdict: the first of a
fixed sequence of complaints that applies, and no complaint if the call is
converted. No other failure can arise, whatever the target and wherever the
constructor comes from.
-/

namespace ClassLift

/-- What is said of a call that is refused. -/
inductive Complaint where
  | missingParameters
  | invalidArity (count : Nat)
  | invalidNamespace
  | invalidMemberTable (position : Int)
deriving DecidableEq

/-- The complaint that a failure stands for; a fault in the shape of a tree is none. -/
def Failure.complaint? : Failure → Option Complaint
  | .missingParameters => some .missingParameters
  | .invalidArity count => some (.invalidArity count)
  | .invalidNamespace _ _ => some .invalidNamespace
  | .invalidMemberTable position _ => some (.invalidMemberTable position)
  | .shape _ | .constructorOutside => none

namespace Conversion

/-- Whether a text is a dotted name: not empty and without empty segments. -/
def isDottedName (text : String) : Bool :=
  text ≠ "" && "" ∉ Text.pieces '.' text

/-- Whether an argument is a string literal that holds a dotted name. -/
def namesClass (node : Json) : Bool :=
  Node.hasType "Literal" node &&
    match node.field? "value" with
    | some (.str text) => isDottedName text
    | _ => false

/-- Whether the options ask for a superclass and name it badly. -/
def misnamesSuperclass (options : Options) : Bool :=
  options.extended && options.extendedNamespace.any fun dotted =>
    let name := Text.trimmed dotted
    name ≠ "" && !isDottedName name

/-- The parameters of a call as a list; null stands for none. -/
def itemsOf : Json → List Json
  | .arr items => items
  | _ => []

/-- Whether parameters are null or a list, and all arguments but the name well-shaped tables. -/
def isWellShaped : Json → Bool
  | .null => true
  | .arr items => items.tail.all MemberTable.isWellShaped
  | _ => false

/-- The complaints about a call in the order in which they are looked for, and if they apply. -/
def complaints (options : Options) (items : List Json) : List (Bool × Complaint) :=
  [(items.isEmpty, .missingParameters),
    (items.length ≠ 2 && items.length ≠ 3, .invalidArity items.length),
    (!items.head?.any namesClass, .invalidNamespace),
    (items.length = 3 && !items[1]?.any MemberTable.isTable, .invalidMemberTable 2),
    (!items.getLast?.any MemberTable.isTable, .invalidMemberTable items.length),
    (misnamesSuperclass options, .invalidNamespace)]

/-- The first complaint of a list that applies. -/
def firstOf (complaints : List (Bool × Complaint)) : Option Complaint :=
  (complaints.find? Prod.fst).map Prod.snd

/-- What is to be said of a call; nothing if it can be converted. -/
def verdict (options : Options) (items : List Json) : Option Complaint :=
  firstOf (complaints options items)

/-- A computation that fails with the given complaint. -/
def Refuses {α : Type} (outcome : Except Failure α) (complaint : Complaint) : Prop :=
  ∃ failure, outcome = .error failure ∧ failure.complaint? = some complaint

theorem Refuses.bind {α β : Type} {first : Except Failure α} {complaint : Complaint}
    (refuses : Refuses first complaint) (second : α → Except Failure β) :
    Refuses (first >>= second) complaint := by
  rcases refuses with ⟨failure, rfl, complaintIs⟩
  exact ⟨failure, rfl, complaintIs⟩

/-- An outcome agrees with a verdict if it fails with its complaint, or succeeds without one. -/
def Agrees {α : Type} (outcome : Except Failure α) : Option Complaint → Prop
  | some complaint => Refuses outcome complaint
  | none => Succeeds outcome

/-- A list of complaints is gone through from its start. -/
theorem agrees_firstOf_cons {α : Type} {outcome : Except Failure α} {applies : Bool}
    {complaint : Complaint} {others : List (Bool × Complaint)}
    (refuses : applies = true → Refuses outcome complaint)
    (goesOn : applies = false → Agrees outcome (firstOf others)) :
    Agrees outcome (firstOf ((applies, complaint) :: others)) := by
  cases applies with
  | true => exact refuses rfl
  | false => exact goesOn rfl

/-! ## Names -/

theorem succeeds_parse {text : String} (isDotted : isDottedName text = true) :
    Succeeds (NamespacePath.parse (.str text)) := by
  simp only [isDottedName, Bool.and_eq_true, decide_eq_true_eq] at isDotted
  exact NamespacePath.exists_parse_iff.mpr
    ⟨text, rfl, NamespacePath.isDotted_iff.mpr isDotted.2⟩

theorem refuses_parse {text : String} (notDotted : isDottedName text = false) :
    Refuses (NamespacePath.parse (.str text)) .invalidNamespace := by
  unfold NamespacePath.parse
  by_cases isEmpty : text = ""
  · simp only [isEmpty, if_true]
    exact ⟨_, rfl, rfl⟩
  · have hasEmpty : "" ∈ Text.pieces '.' text := by
      simpa [isDottedName, isEmpty] using notDotted
    simp only [isEmpty, if_false, List.contains_iff_mem, hasEmpty, if_true]
    exact ⟨_, rfl, rfl⟩

theorem namespaceOf_obj (fields : List (String × Json)) :
    namespaceOf (.obj fields) =
      if Node.hasType "Literal" (.obj fields) then
        match ((Json.obj fields).field? "value").getD .null with
        | .str text => .ok (.str text)
        | other => .error (.invalidNamespace other .notLiteral)
      else .error (.invalidNamespace (((Json.obj fields).field? "type").getD .null)
        .notLiteral) := by
  simp only [namespaceOf, Json.field, ok_bind, Json.isStr_getD_null]
  rfl

theorem namespaceOf_of_namesClass {name : Json} (names : namesClass name = true) :
    ∃ text, namespaceOf name = .ok (.str text) ∧ isDottedName text = true := by
  cases name with
  | obj fields =>
      simp only [namesClass, Bool.and_eq_true] at names
      rcases names with ⟨isLiteral, names⟩
      split at names
      · rename_i text textIs
        exact ⟨text, by rw [namespaceOf_obj, if_pos isLiteral, textIs]; rfl, names⟩
      · simp at names
  | null | bool | int | float | str | arr => simp [namesClass, Node.hasType, Json.field?] at names

theorem namespaceOf_of_not_namesClass {name : Json} (misnames : namesClass name = false) :
    Refuses (namespaceOf name) .invalidNamespace ∨
      ∃ text, namespaceOf name = .ok (.str text) ∧ isDottedName text = false := by
  cases name with
  | obj fields =>
      rw [namespaceOf_obj]
      by_cases isLiteral : Node.hasType "Literal" (.obj fields) = true
      · rw [if_pos isLiteral]
        rw [namesClass, isLiteral, Bool.true_and] at misnames
        cases valueIs : (Json.obj fields).field? "value" with
        | none => exact .inl ⟨_, rfl, rfl⟩
        | some value =>
            rw [valueIs] at misnames
            cases value with
            | str text => exact .inr ⟨text, rfl, misnames⟩
            | null | bool | int | float | arr | obj => exact .inl ⟨_, rfl, rfl⟩
      · rw [if_neg isLiteral]
        exact .inl ⟨_, rfl, rfl⟩
  | null | bool | int | float | str | arr => exact .inl ⟨_, rfl, rfl⟩

theorem extendedPath_of_misnamesSuperclass {options : Options}
    (misnames : misnamesSuperclass options = true) :
    options.extended = true ∧ Refuses options.extendedPath .invalidNamespace := by
  simp only [misnamesSuperclass, Bool.and_eq_true, Option.any_eq_true, decide_eq_true_eq,
    Bool.not_eq_true'] at misnames
  rcases misnames with ⟨extended, dotted, namespaceIs, notBlank, notDotted⟩
  rcases refuses_parse notDotted with ⟨failure, fails, complaintIs⟩
  refine ⟨extended, failure, ?_, complaintIs⟩
  simp only [Options.extendedPath, namespaceIs, notBlank, if_false, fails]
  rfl

theorem succeeds_extendedPath {options : Options} (extended : options.extended = true)
    (names : misnamesSuperclass options = false) : Succeeds options.extendedPath := by
  unfold Options.extendedPath
  split
  · exact succeeds_ok _
  · rename_i dotted namespaceIs
    by_cases isBlank : Text.trimmed dotted = ""
    · simp only [isBlank, if_true]
      exact succeeds_ok _
    · have isDotted : isDottedName (Text.trimmed dotted) = true := by
        simpa [misnamesSuperclass, extended, namespaceIs, isBlank] using names
      rcases succeeds_parse isDotted with ⟨path, parses⟩
      simp only [isBlank, if_false, parses]
      exact succeeds_ok (some path)

/-! ## Tables -/

theorem readStatics_of_isTable {statics : Option Json}
    (wellShaped : ∀ table ∈ statics, MemberTable.isWellShaped table = true)
    (isTable : ∀ table ∈ statics, MemberTable.isTable table = true) :
    ∃ read, (readStatics statics).outcome = .ok read ∧
      ∀ entry ∈ read.entries, entry.WellShaped := by
  cases statics with
  | none => exact ⟨⟨[], []⟩, rfl, by simp⟩
  | some table => exact MemberTable.read_of_isTable (wellShaped table rfl) (isTable table rfl) 2

theorem refuses_read {table : Json} (wellShaped : MemberTable.isWellShaped table = true)
    (notTable : MemberTable.isTable table = false) (position : Int) :
    Refuses (MemberTable.read table position).outcome (.invalidMemberTable position) := by
  rcases MemberTable.read_of_not_isTable wellShaped notTable position with ⟨found, fails⟩
  exact ⟨_, fails, rfl⟩

/-! ## Calls -/

theorem refuses_extendShell {options : Options} (misnames : misnamesSuperclass options = true)
    (shell : ClassShell) (scope : Scope) :
    Refuses (extendShell options shell scope).outcome .invalidNamespace := by
  rcases extendedPath_of_misnamesSuperclass misnames with ⟨extended, refused⟩
  rw [extendShell, if_pos extended, Traced.outcome_bind, Traced.outcome_liftM]
  exact refused.bind _

theorem succeeds_extendShell {options : Options} (names : misnamesSuperclass options = false)
    (shell : ClassShell) (scope : Scope) :
    Succeeds (extendShell options shell scope).outcome := by
  unfold extendShell
  split
  · rename_i extended
    rw [Traced.outcome_bind, Traced.outcome_liftM]
    refine (succeeds_extendedPath extended names).bind fun path? => ?_
    cases path? with
    | none => exact succeeds_ok _
    | some path =>
        rw [ClassShell.extend_some_outcome]
        exact succeeds_ok _
  · exact succeeds_ok _

/-- The complaints about a call whose arguments are two or three. -/
def Arguments.complaints (options : Options) (arguments : Arguments) : List (Bool × Complaint) :=
  [(!namesClass arguments.name, .invalidNamespace),
    (!arguments.statics.all MemberTable.isTable, .invalidMemberTable 2),
    (!MemberTable.isTable arguments.members, .invalidMemberTable arguments.count),
    (misnamesSuperclass options, .invalidNamespace)]

/-- Static members with well-shaped entries can be placed and their data assigned. -/
theorem succeeds_staticData {entries : List MemberEntry}
    (wellShaped : ∀ entry ∈ entries, entry.WellShaped) (scope : Scope) (path : NamespacePath) :
    ∃ added, (StaticMembers.append entries []).outcome = .ok added ∧
      Succeeds (StaticMembers.assignments scope path added.data) := by
  rcases StaticMembers.succeeds_append wellShaped [] with ⟨added, appends⟩
  refine ⟨added, appends, ?_⟩
  rw [StaticMembers.append_eq_ok appends]
  apply succeeds_mapM
  intro entry isData
  exact (wellShaped entry (List.mem_filter.mp isData).1).toAssignment _

/-- Two or three arguments with well-shaped tables: complaints arise in the order of the stages. -/
theorem agrees_arguments {options : Options} {parameters : Json} {arguments : Arguments}
    (argumentsRead : Arguments.ofJson parameters = .ok arguments)
    (staticsShaped : ∀ table ∈ arguments.statics, MemberTable.isWellShaped table = true)
    (membersShaped : MemberTable.isWellShaped arguments.members = true) :
    Agrees (ofParameters options parameters).outcome (firstOf (arguments.complaints options)) := by
  simp only [ofParameters, Traced.outcome_bind, Traced.outcome_liftM, argumentsRead, ok_bind,
    Arguments.complaints]
  refine agrees_firstOf_cons ?misnamed fun named => ?_
  case misnamed =>
    intro misnamed
    rcases namespaceOf_of_not_namesClass (by simpa using misnamed) with
      refused | ⟨text, nameRead, notDotted⟩
    · exact refused.bind _
    · rw [nameRead, ok_bind]
      exact (refuses_parse notDotted).bind _
  rcases namespaceOf_of_namesClass (by simpa using named) with ⟨text, nameRead, isDotted⟩
  rcases succeeds_parse isDotted with ⟨path, pathRead⟩
  rw [nameRead, ok_bind, pathRead, ok_bind]
  refine agrees_firstOf_cons ?noStatics fun isStatics => ?_
  case noStatics =>
    intro noStatics
    cases staticsAre : arguments.statics with
    | none => simp [staticsAre] at noStatics
    | some table =>
        have notTable : MemberTable.isTable table = false := by simpa [staticsAre] using noStatics
        exact (refuses_read (staticsShaped table staticsAre) notTable 2).bind _
  rcases readStatics_of_isTable staticsShaped (by simpa [Option.all_eq_true] using isStatics) with
    ⟨statics, staticsRead, staticsShaped⟩
  rw [staticsRead, ok_bind]
  refine agrees_firstOf_cons ?noMembers fun isMembers => ?_
  case noMembers =>
    intro noMembers
    exact (refuses_read membersShaped (by simpa using noMembers) _).bind _
  rcases MemberTable.read_of_isTable membersShaped (by simpa using isMembers) arguments.count with
    ⟨members, membersRead, membersShaped⟩
  rw [membersRead, ok_bind, Scope.resolve_outcome, ok_bind]
  refine agrees_firstOf_cons ?misnamedSuperclass fun namedSuperclass => ?_
  case misnamedSuperclass =>
    intro misnamed
    exact (refuses_extendShell misnamed _ _).bind _
  -- no complaint is left, and every stage that remains succeeds
  refine (succeeds_extendShell namedSuperclass _ _).bind fun extension => ?_
  rcases succeeds_staticData staticsShaped extension.scope path with ⟨added, appends, assigns⟩
  rw [appends, ok_bind]
  refine (InstanceMembers.succeeds_add options _ membersShaped _).bind fun _ => ?_
  exact assigns.bind fun _ => succeeds_ok _

theorem Arguments.ofJson_of_length {items : List Json} (notEmpty : items ≠ [])
    (notTwo : items.length ≠ 2) (notThree : items.length ≠ 3) :
    ofJson (.arr items) = .error (.invalidArity items.length) := by
  have isTruthy : (Json.arr items).isTruthy = true := by simpa [Json.isTruthy] using notEmpty
  simp only [ofJson, isTruthy, Json.length, ok_bind, if_pos (And.intro notTwo notThree)]
  rfl

/-- Arguments that are neither two nor three are refused for their number. -/
theorem agrees_of_length (options : Options) {items : List Json} (notTwo : items.length ≠ 2)
    (notThree : items.length ≠ 3) :
    Agrees (ofParameters options (.arr items)).outcome (verdict options items) := by
  refine agrees_firstOf_cons ?none fun someItems => ?_
  case none =>
    intro noItems
    rw [List.isEmpty_iff.mp noItems]
    exact ⟨.missingParameters, rfl, rfl⟩
  refine agrees_firstOf_cons ?wrong fun right => ?_
  case wrong =>
    intro _
    have refused := Arguments.ofJson_of_length (by simpa using someItems) notTwo notThree
    simp only [ofParameters, Traced.outcome_bind, Traced.outcome_liftM, refused]
    exact ⟨_, rfl, rfl⟩
  simp [notTwo, notThree] at right

/--
A call with well-shaped tables is refused with the first complaint that applies
to it, and converted if none does.
-/
theorem ofParameters_agrees {parameters : Json} (wellShaped : isWellShaped parameters = true)
    (options : Options) :
    Agrees (ofParameters options parameters).outcome (verdict options (itemsOf parameters)) := by
  cases parameters with
  | null => exact ⟨.missingParameters, rfl, rfl⟩
  | arr items =>
      simp only [isWellShaped, List.all_eq_true] at wellShaped
      match items with
      | [] | [_] => exact agrees_of_length options (by simp) (by simp)
      | [name, members] =>
          have argumentsRead : Arguments.ofJson (.arr [name, members]) =
              .ok ⟨name, none, members⟩ := rfl
          exact agrees_arguments argumentsRead (by simp) (wellShaped members (by simp))
      | [name, statics, members] =>
          have argumentsRead : Arguments.ofJson (.arr [name, statics, members]) =
              .ok ⟨name, some statics, members⟩ := rfl
          have staticsShaped := wellShaped statics (by simp)
          exact agrees_arguments argumentsRead (by simpa using staticsShaped)
            (wellShaped members (by simp))
      | _ :: _ :: _ :: _ :: _ => exact agrees_of_length options (by simp) (by simp)
  | bool | int | float | str | obj => simp [isWellShaped] at wellShaped

/-- The sample with an empty segment in the name of its superclass. -/
def misnamedOptions : Options :=
  { sampleOptions with extendedNamespace := some "app..Widget" }

theorem ofParameters_agrees_sampleCall :
    isWellShaped sampleCall = true ∧ Succeeds (ofParameters sampleOptions sampleCall).outcome ∧
      Refuses (ofParameters misnamedOptions sampleCall).outcome .invalidNamespace := by
  have wellShaped : isWellShaped sampleCall = true := by decide
  have noComplaint : verdict sampleOptions (itemsOf sampleCall) = none := by decide
  have complaint : verdict misnamedOptions (itemsOf sampleCall) = some .invalidNamespace := by
    decide
  have converted := ofParameters_agrees wellShaped sampleOptions
  have refused := ofParameters_agrees wellShaped misnamedOptions
  rw [noComplaint] at converted
  rw [complaint] at refused
  exact ⟨wellShaped, converted, refused⟩

end Conversion

end ClassLift

import ClassLift.Proofs.ClassBody.Effect
import ClassLift.Proofs.Tree.Scoping

/-!
# Names captured by a constructor

Data that is initialised in the constructor moves into a function, which brings
names of its own: its parameters, the variables it declares, and `arguments`. A
free name of a data value stays free there unless it is one of these.

The parameters come with the function of the table, or with the constructor that
the class body has, and a constructor made up for a derived class has the single
parameter `args`. So whether a parameter captures a name of the data can be told
from the table and the body alone: `InstanceMembers.add_captures_iff`.
-/

namespace ClassLift

namespace Node

/-- The names of the parameters of a constructor. -/
def parametersOf (node : Json) : List String :=
  parameterNames (link "value" node)

/-- The names that are bound for the statements of a constructor. -/
def constructorNames (node : Json) : List String :=
  introduced (link "value" node) "body" ++ introduced (link "body" (link "value" node)) "body"

/-- The path from a constructor to the statement at a position. -/
def statementPath (position : Nat) : List Json.Step :=
  [.key "value", .key "body", .key "body", .index position]

/-- The path from an assignment to what is assigned. -/
def assignedPath : List Json.Step :=
  [.key "expression", .key "right"]

theorem parameterNames_copiedFunction (function : Json) :
    parameterNames (copiedFunction function) = parameterNames function := by
  have paramsAre : link "params" (copiedFunction function) =
      orElse (.arr []) (link "params" function) := rfl
  unfold parameterNames
  rw [paramsAre]
  cases link "params" function with
  | null => rfl
  | bool | int | float | str | arr | obj => rfl

theorem parametersOf_synthesisedConstructor (derived : Bool) :
    parametersOf (synthesisedConstructor derived) = if derived then ["args"] else [] := by
  cases derived with
  | true => decide
  | false => decide

theorem link_update_of_ne {key otherKey : String} (differ : otherKey ≠ key)
    (change : Json → Json) (node : Json) :
    link otherKey (node.update key change) = link otherKey node := by
  rw [link, Json.field?_update_of_ne differ, link]

theorem parametersOf_withConstructorStatements (node : Json) (statements : List Json) :
    parametersOf (withConstructorStatements node statements) = parametersOf node := by
  unfold parametersOf parameterNames withConstructorStatements
  have valueIs : link "value" (node.update "value" (·.update "body"
      (·.update "body" fun _ => .arr statements))) =
        (link "value" node).update "body" (·.update "body" fun _ => .arr statements) := by
    rw [link, Json.field?_update, link]
    cases node.field? "value" with
    | none => rfl
    | some function => rfl
  rw [valueIs, link_update_of_ne (by decide)]

theorem parametersOf_appendStatements (node : Json) (added : List Json) :
    parametersOf (appendStatements node added) = parametersOf node := by
  unfold appendStatements
  split
  · exact parametersOf_withConstructorStatements node _
  · rfl

/-! ## Values in a constructor -/

theorem isFreeAt_assignedPath_iff {name : String} {left right : Json} {place : List Json.Step} :
    IsFreeAt name (assignmentStatement left right) (assignedPath ++ place) ↔
      IsFreeAt name right place := by
  have leads : (assignmentStatement left right).follow? assignedPath = some right := rfl
  have isReference : isReferencePath (assignmentStatement left right) assignedPath = true := rfl
  have noneBound : boundOn (assignmentStatement left right) assignedPath = [] := rfl
  rw [isFreeAt_append_iff leads isReference, noneBound]
  simp

section

variable {node statement : Json} {statements : List Json} {position : Nat}

theorem follow?_statementPath (read : constructorStatements node = .ok (.arr statements))
    (isThere : statements[position]? = some statement) :
    node.follow? (statementPath position) = some statement ∧
      isReferencePath node (statementPath position) = true ∧
      boundOn node (statementPath position) = constructorNames node := by
  rcases constructorStatements_eq_ok_iff.mp read with
    ⟨function, block, functionRead, blockRead, statementsRead⟩
  have functionPart : node.part? (.key "value") = some function := functionRead
  have blockPart : function.part? (.key "body") = some block := blockRead
  have statementsPart : block.part? (.key "body") = some (.arr statements) := statementsRead
  have statementPart : (Json.arr statements).part? (.index position) = some statement := isThere
  unfold statementPath
  refine ⟨?_, ?_, ?_⟩
  · rw [Json.follow?_cons functionPart, Json.follow?_cons blockPart,
      Json.follow?_cons statementsPart, Json.follow?_cons statementPart]
    rfl
  · rw [isReferencePath_cons functionPart, isReferencePath_cons blockPart,
      isReferencePath_cons statementsPart, isReferencePath_cons statementPart]
    simp [admits, isReferencePath, not_isNaming (show "value" ∉ namingKeys by decide),
      not_isNaming (show "body" ∉ namingKeys by decide)]
  · have functionIs : link "value" node = function := by rw [link, functionRead]; rfl
    have blockIs : link "body" function = block := by rw [link, blockRead]; rfl
    have noneForValue : introduced node "value" = [] := introduced_eq_nil (by decide) node
    rw [boundOn_cons functionPart, boundOn_cons blockPart, boundOn_cons statementsPart,
      boundOn_cons statementPart, constructorNames, functionIs, blockIs]
    simp [introducedBy, noneForValue, boundOn]

/-- A name of a value assigned in a constructor is free there unless the constructor binds it. -/
theorem isFreeAt_assigned_iff {name : String} {left right : Json} {place : List Json.Step}
    (read : constructorStatements node = .ok (.arr statements))
    (isThere : statements[position]? = some (assignmentStatement left right)) :
    IsFreeAt name node (statementPath position ++ (assignedPath ++ place)) ↔
      IsFreeAt name right place ∧ name ∉ constructorNames node := by
  rcases follow?_statementPath read isThere with ⟨leads, isReference, boundIs⟩
  rw [isFreeAt_append_iff leads isReference, isFreeAt_assignedPath_iff, boundIs]

end

theorem mem_constructorNames_of_parameter {node : Json} {name : String}
    (isFunction : hasType "FunctionExpression" (link "value" node) = true)
    (isParameter : name ∈ parametersOf node) : name ∈ constructorNames node := by
  have isIntroduced : name ∈ introduced (link "value" node) "body" := by
    rw [introduced, scopes, isFunction, Bool.true_or, if_pos rfl, List.mem_flatMap]
    refine ⟨_, List.mem_cons_self, ?_⟩
    simp only [List.mem_cons, String.reduceEq, or_true, true_or, if_true]
    right
    exact List.mem_append_right _ isParameter
  exact List.mem_append_left _ isIntroduced

/-- Where a value stands in a constructor, and which of its free names are free there. -/
structure Inlines (node value : Json) (path : List Json.Step) : Prop where
  leads : node.follow? path = some value
  free_iff : ∀ name place, IsFreeAt name value place →
    (IsFreeAt name node (path ++ place) ↔ name ∉ constructorNames node)
  captured : hasType "FunctionExpression" (link "value" node) = true →
    ∀ name ∈ parametersOf node, ∀ place, ¬IsFreeAt name node (path ++ place)

theorem inlines_of_assigned {node left right : Json} {statements : List Json} {position : Nat}
    (read : constructorStatements node = .ok (.arr statements))
    (isThere : statements[position]? = some (assignmentStatement left right)) :
    Inlines node right (statementPath position ++ assignedPath) := by
  constructor
  · rw [Json.follow?_append (follow?_statementPath read isThere).1]
    rfl
  · intro name place isFree
    rw [List.append_assoc, isFreeAt_assigned_iff read isThere]
    simp [isFree]
  · intro isFunction name isParameter place
    rw [List.append_assoc, isFreeAt_assigned_iff read isThere]
    simp [mem_constructorNames_of_parameter isFunction isParameter]

end Node

namespace InstanceMembers

variable {options : Options} {produced derived : Bool} {entries : List MemberEntry}
  {members : ClassifiedMembers} {body : List Json} {result : InstanceMembers}

/-- The parameters of the constructor that an addition leads to. -/
def parametersFor (produced derived : Bool) (members : ClassifiedMembers) (body : List Json) :
    List String :=
  match members.classConstructor with
  | some entry => Node.parameterNames entry.value
  | none =>
      match if produced then body.find? Node.isClassConstructor else none with
      | some node => Node.parametersOf node
      | none => if derived then ["args"] else []

/-- One of the names is a free name of one of the data values. -/
def MentionsFree (data : List MemberEntry) (names : List String) : Prop :=
  ∃ entry ∈ data, ∃ name ∈ names, ∃ place, Node.IsFreeAt name entry.value place

theorem parametersOf_of_seat {before after : List Json} {node : Json}
    (seat : Seat produced derived members body before node after) :
    Node.parametersOf node = parametersFor produced derived members body := by
  cases seat with
  | taken entry isConstructor =>
      rw [parametersFor, isConstructor]
      exact Node.parameterNames_copiedFunction entry.value
  | present before node after noEntry isProduced bodyIs isConstructor isFirst =>
      have isFound : body.find? Node.isClassConstructor = some node := by
        rw [List.find?_eq_some_iff_append]
        refine ⟨isConstructor, before, after, bodyIs, ?_⟩
        intro member isBefore
        rw [isFirst member isBefore]
        rfl
      rw [parametersFor, noEntry, isProduced, if_pos rfl, isFound]
  | synthesised noEntry noneThere hasData =>
      have notFound : (if produced then body.find? Node.isClassConstructor else none) = none := by
        cases produced with
        | false => rfl
        | true =>
            rw [if_pos rfl, List.find?_eq_none]
            intro member isMember
            simp [noneThere rfl member isMember]
      rw [parametersFor, noEntry, notFound]
      exact Node.parametersOf_synthesisedConstructor derived

theorem inlines_initialised {node : Json} {own : List Json} {data : List MemberEntry}
    {entry : MemberEntry} (read : Node.constructorStatements node = .ok (.arr own))
    (isData : entry ∈ data) :
    ∃ path, Node.Inlines (Placement.initialised .es2015 node data) entry.value path := by
  rcases List.mem_iff_getElem?.mp isData with ⟨index, entryIs⟩
  have initialisedRead : Node.constructorStatements (Placement.initialised .es2015 node data) =
      .ok (.arr (own ++ Placement.thisAssignments data)) :=
    Node.constructorStatements_appendStatements read _
  have isThere : (own ++ Placement.thisAssignments data)[own.length + index]? =
      some (entry.assignedTo Node.thisExpression) := by
    rw [List.getElem?_append_right (Nat.le_add_right _ _), Nat.add_sub_cancel_left,
      Placement.thisAssignments, List.getElem?_map, entryIs]
    rfl
  exact ⟨_, Node.inlines_of_assigned initialisedRead isThere⟩

/--
The constructor that initialises data has the parameters that come with the table
or the class body, or `args` if it is made up for a derived class. Free names of
the data are captured by a parameter exactly if they are among these names.
-/
theorem add_captures_iff (inlines : options.target = .es2015)
    (adds : (add options produced derived entries body).members.outcome = .ok result) :
    result.data = (ClassifiedMembers.byRole (some options.constructorName) produced entries).data ∧
      (result.slot = none → result.data = []) ∧
      ∀ slot, result.slot = some slot →
        slot.body = (add options produced derived entries body).body ∧
          (MentionsFree result.data (Node.parametersOf slot.node) ↔
            MentionsFree result.data (parametersFor produced derived
              (.byRole (some options.constructorName) produced entries) body)) ∧
          ∀ entry ∈ result.data, ∃ path, Node.Inlines slot.node entry.value path := by
  rcases add_cases rfl adds with
    ⟨before, node, after, seat, bodyIs, resultIs, hasList⟩ | ⟨_, noData, _, _, resultIs⟩
  · rw [resultIs]
    refine ⟨rfl, nofun, ?_⟩
    rintro slot ⟨⟩
    refine ⟨bodyIs.symm, ?_, ?_⟩
    · rw [← parametersOf_of_seat seat, inlines]
      exact iff_of_eq (congrArg _ (Node.parametersOf_appendStatements node _))
    · intro entry isData
      rcases hasList inlines (List.ne_nil_of_mem isData) with ⟨own, read⟩
      rw [inlines]
      exact inlines_initialised read isData
  · rw [resultIs]
    exact ⟨rfl, fun _ => noData, nofun⟩

/-- The entry `key: name` of a table. -/
def namingEntry (key name : String) : MemberEntry :=
  ⟨Node.identifier (.str key), Node.identifier (.str name), false, .str "init"⟩

/-- The entry `init: function (label) {}` of a table. -/
def labelledInit : MemberEntry :=
  ⟨Node.identifier (.str "init"),
    Node.functionExpression (.arr [Node.identifier (.str "label")]) .null .null (.bool false)
      (.bool false) (.bool false), false, .str "init"⟩

theorem add_captures_iff_uncaptured :
    Options.default.target = .es2015 ∧
      ∃ result slot,
        (add .default false true [labelledInit, namingEntry "size" "count"] []).members.outcome =
            .ok result ∧
          result.slot = some slot ∧ Node.parametersOf slot.node = ["label"] ∧
          ¬MentionsFree result.data (Node.parametersOf slot.node) ∧
          ∃ path, Node.Inlines slot.node (Node.identifier (.str "count")) path := by
  have sampleAdds : ∃ result slot,
      (add .default false true [labelledInit, namingEntry "size" "count"] []).members.outcome =
          .ok result ∧
        result.slot = some slot ∧ Node.parametersOf slot.node = ["label"] ∧
        result.data = [namingEntry "size" "count"] := ⟨_, _, rfl, rfl, rfl, rfl⟩
  rcases sampleAdds with ⟨result, slot, adds, slotIs, parametersAre, dataAre⟩
  rcases (add_captures_iff rfl adds).2.2 slot slotIs with ⟨_, captures_iff, inlined⟩
  refine ⟨rfl, result, slot, adds, slotIs, parametersAre, ?_, ?_⟩
  · rw [captures_iff, dataAre]
    rintro ⟨entry, isData, name, isName, place, isFree⟩
    obtain rfl : entry = namingEntry "size" "count" := List.mem_singleton.mp isData
    obtain rfl : name = "label" := List.mem_singleton.mp isName
    have sameName := (Node.isFreeAt_identifier_iff.mp isFree).2
    simp at sameName
  · apply inlined (namingEntry "size" "count")
    rw [dataAre]
    exact List.mem_singleton_self _

theorem add_captures_iff_captured :
    Options.default.target = .es2015 ∧
      (∃ result slot,
        (add .default false true [namingEntry "label" "args"] []).members.outcome = .ok result ∧
          result.slot = some slot ∧ MentionsFree result.data (Node.parametersOf slot.node)) ∧
      ∃ result slot,
        (add .default false false
            [labelledInit, namingEntry "label" "label"] []).members.outcome = .ok result ∧
          result.slot = some slot ∧ MentionsFree result.data (Node.parametersOf slot.node) := by
  have mentions : ∀ key name : String, MentionsFree [namingEntry key name] [name] := by
    intro key name
    exact ⟨_, List.mem_singleton_self _, name, List.mem_singleton_self _, [],
      Node.isFreeAt_identifier_iff.mpr ⟨rfl, rfl⟩⟩
  exact ⟨rfl, ⟨_, _, rfl, rfl, mentions "label" "args"⟩,
    ⟨_, _, rfl, rfl, mentions "label" "label"⟩⟩

end InstanceMembers

end ClassLift

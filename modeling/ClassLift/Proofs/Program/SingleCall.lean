import ClassLift.Proofs.Callee
import ClassLift.Proofs.Program.Scan

/-!
# A call converted alone and inside a program

The arguments of a call can be converted as they are, or the call can be found in
a program and converted there. Both lead to the same for a program that holds
nothing but the call: the search finds the call by its callee, which is matched
by the names it was built from; it finds no other, if there is none among the
arguments; and the merge drops nothing, since the constants that one conversion
declares are distinct.
-/

namespace ClassLift

namespace Node

/-- The plain access `a.b.c` for the names `a`, `b` and `c`. -/
def plainChain : List String → Json
  | [] => .null
  | first :: rest => Scope.chain (identifier (.str first)) rest

theorem isChain_plainChain {names : List String} (notEmpty : names ≠ []) :
    isChain (plainChain names) names = .ok true := by
  cases names with
  | nil => exact absurd rfl notEmpty
  | cons first rest =>
      exact (isChain_eq_true_iff notEmpty).mpr (isPlainChain_memberChain first rest)

/-- A chain has no calls but those of the object it starts from. -/
theorem mem_nodes_of_mem_nodes_chain {object node : Json} {names : List String}
    (isCall : hasType "CallExpression" node = true)
    (isNode : node ∈ (Scope.chain object names).nodes) : node ∈ object.nodes := by
  induction names generalizing object with
  | nil => exact isNode
  | cons name rest ih =>
      have isInside : node ∈ (dot object (.str name)).nodes := ih isNode
      have nodesAre : (dot object (.str name)).nodes =
          dot object (.str name) :: (object.nodes ++ [identifier (.str name)]) := rfl
      have notDot : hasType "CallExpression" (dot object (.str name)) = false := rfl
      have notName : hasType "CallExpression" (identifier (.str name)) = false := rfl
      rw [nodesAre, List.mem_cons, List.mem_append, List.mem_singleton] at isInside
      rcases isInside with rfl | isObject | rfl
      · simp [notDot] at isCall
      · exact isObject
      · simp [notName] at isCall

theorem hasType_of_mem_nodes_plainChain {node : Json} {names : List String}
    (isNode : node ∈ (plainChain names).nodes) : hasType "CallExpression" node = false := by
  cases names with
  | nil => simp [plainChain, Json.nodes] at isNode
  | cons first rest =>
      rw [← Bool.not_eq_true]
      intro isCall
      have isFirst : node ∈ [identifier (.str first)] :=
        mem_nodes_of_mem_nodes_chain isCall isNode
      rw [List.mem_singleton.mp isFirst] at isCall
      simp [hasType, identifier, ofType, Json.field?, Json.isStr] at isCall

end Node

namespace Program

/-! ## The merge of a single conversion -/

/-- Where no constant stands twice, nothing is dropped. -/
theorem keepFirst_eq_self {seen statements : List Json}
    (distinct : ((seen ++ statements).filter Node.isConstant).Nodup) :
    keepFirst seen statements = statements := by
  induction statements generalizing seen with
  | nil => rfl
  | cons statement rest ih =>
      have notRepeated : ¬(Node.isConstant statement = true ∧ statement ∈ seen) := by
        rintro ⟨isConstant, isSeen⟩
        rw [List.filter_append, List.filter_cons_of_pos isConstant] at distinct
        have differ := (List.nodup_append.mp distinct).2.2
        exact differ statement (List.mem_filter.mpr ⟨isSeen, isConstant⟩) statement
          List.mem_cons_self rfl
      rw [keepFirst, if_neg notRepeated, ih]
      simpa using distinct

theorem filter_isConstant_of_assignments {statements : List Json}
    (assign : ∀ statement ∈ statements, Node.IsAssignment statement) :
    statements.filter Node.isConstant = [] := by
  rw [List.filter_eq_nil_iff]
  intro statement statementMem
  rcases assign statement statementMem with ⟨left, right, rfl⟩
  simp

/-- The constants for the roots of a class and of its superclass are different. -/
theorem nodup_constants (rootObject : String) (segments : List String)
    (superSegments? : Option (List String)) :
    (Layout.rootConstants rootObject segments ++
      Layout.superclassConstants rootObject segments superSegments?).Nodup := by
  unfold Layout.superclassConstants
  split
  · rename_i superRoot _ _
    split
    · unfold Layout.rootConstants
      split <;> simp
    · rename_i otherRoot
      unfold Layout.rootConstants
      split
      · rename_i root _ _
        have differ : root ≠ superRoot := by
          intro same
          apply otherRoot
          simp [same]
        simp [constant_injective.eq_iff, differ]
      · simp
  · unfold Layout.rootConstants
    split <;> simp

/-- Merging drops nothing from a single conversion. -/
theorem withoutRepeats_statements {options : Options} {parameters : Json} {conversion : Conversion}
    (converts : (Conversion.ofParameters options parameters).outcome = .ok conversion) :
    withoutRepeats conversion.statements = conversion.statements := by
  rcases Conversion.exists_statements_eq converts with ⟨members, data, statementsAre⟩
  have noneBefore : (Layout.guards options.rootObject conversion.path.segments).filter
      Node.isConstant = [] := by
    apply filter_isConstant_of_assignments
    intro statement isGuard
    rcases List.mem_map.mp isGuard with ⟨index, _, rfl⟩
    exact ⟨_, _, rfl⟩
  have noneAfter : (Layout.classStatement options conversion.path members ::
      Layout.staticAssignments options conversion.path.segments data).filter
        Node.isConstant = [] := by
    apply filter_isConstant_of_assignments
    intro statement isAfter
    rcases List.mem_cons.mp isAfter with rfl | isStatic
    · exact ⟨_, _, rfl⟩
    · rcases List.mem_map.mp isStatic with ⟨entry, _, rfl⟩
      exact ⟨_, _, rfl⟩
  have distinct := nodup_constants options.rootObject conversion.path.segments
    options.superclassSegments
  rw [withoutRepeats_eq]
  apply keepFirst_eq_self
  simp only [statementsAre, Layout.opening, List.nil_append, List.filter_append, noneBefore,
    noneAfter, List.append_nil]
  rw [← List.filter_append]
  exact distinct.filter _

/-! ## The search for a single call -/

/-- A call of the callee. -/
def callOf (callee : String) (arguments : List Json) : Json :=
  Node.ofType "CallExpression"
    [("callee", Node.plainChain (Text.pieces '.' callee)), ("arguments", .arr arguments)]

/-- A program that holds nothing but a call of the callee. -/
def callProgram (callee : String) (arguments : List Json) : Json :=
  Node.program (.arr [Node.expressionStatement (callOf callee arguments)])

theorem nodes_callProgram (callee : String) (arguments : List Json) :
    (callProgram callee arguments).nodes =
      callProgram callee arguments :: Node.expressionStatement (callOf callee arguments) ::
        callOf callee arguments ::
          ((Node.plainChain (Text.pieces '.' callee)).nodes ++ (Json.arr arguments).nodes) := by
  simp [callProgram, callOf, Node.program, Node.expressionStatement, Node.ofType, Json.nodes,
    Json.nodesOfItems, Json.nodesOfFields, Json.hasType]

variable {options : Options} {names : List String}

theorem visit_of_not_call {node : Json} (notCall : Node.hasType "CallExpression" node = false) :
    visit options names node = .ok none := by
  simp [visit, notCall]

/-- What a scan finds starts with what its first visit gives. -/
theorem scan_cons {node : Json} {rest : List Json} {found : Option Conversion}
    (visited : visit options names node = .ok found) :
    ((node :: rest).mapM (visit options names)).map (·.filterMap id) =
      ((rest.mapM (visit options names)).map (·.filterMap id)).map (found.toList ++ ·) := by
  rw [mapM_cons_of_ok visited]
  cases rest.mapM (visit options names) <;> cases found <;> rfl

theorem scan_eq_nil {nodes : List Json}
    (giveNothing : ∀ node ∈ nodes, visit options names node = .ok none) :
    (nodes.mapM (visit options names)).map (·.filterMap id) = .ok [] := by
  induction nodes with
  | nil => rfl
  | cons node rest ih =>
      rcases List.forall_mem_cons.mp giveNothing with ⟨givesNothing, restNothing⟩
      rw [scan_cons givesNothing, ih restNothing]
      rfl

/--
The call is the only node of such a program whose visit matters, provided that
no call inside its arguments is one of the callee.
-/
theorem scan_callProgram (options : Options) (callee : String) {arguments : List Json}
    (noneInside : ∀ node ∈ (Json.arr arguments).nodes,
      Node.hasType "CallExpression" node = true →
        Node.isChain (Node.calleeOf node) (Text.pieces '.' callee) = .ok false) :
    ((callProgram callee arguments).nodes.mapM (visit options (Text.pieces '.' callee))).map
        (·.filterMap id) =
      (Conversion.ofParameters options (.arr arguments)).outcome.map ([·]) := by
  have isCall : visit options (Text.pieces '.' callee) (callOf callee arguments) =
      (Conversion.ofParameters options (.arr arguments)).outcome.map some := by
    have calleeIs : Node.calleeOf (callOf callee arguments) =
        Node.plainChain (Text.pieces '.' callee) := rfl
    have typed : Node.hasType "CallExpression" (callOf callee arguments) = true := rfl
    rw [visit, if_pos typed, calleeIs, Node.isChain_plainChain (by simp [Text.pieces])]
    rfl
  have restNothing : ∀ node ∈ (Node.plainChain (Text.pieces '.' callee)).nodes ++
      (Json.arr arguments).nodes, visit options (Text.pieces '.' callee) node = .ok none := by
    intro node isNode
    rcases List.mem_append.mp isNode with isInCallee | isInside
    · exact visit_of_not_call (Node.hasType_of_mem_nodes_plainChain isInCallee)
    · cases typed : Node.hasType "CallExpression" node with
      | false => exact visit_of_not_call typed
      | true => rw [visit, if_pos typed, noneInside node isInside typed]
  rw [nodes_callProgram, scan_cons (visit_of_not_call rfl), scan_cons (visit_of_not_call rfl)]
  cases converts : (Conversion.ofParameters options (.arr arguments)).outcome with
  | error failure =>
      rw [converts] at isCall
      rw [List.mapM_cons, isCall]
      rfl
  | ok conversion =>
      rw [converts] at isCall
      rw [scan_cons isCall, scan_eq_nil restNothing]
      rfl

/--
A program that holds nothing but a call is converted like the arguments of the
call alone: it fails as they do, or gives their conversion as the only one and
its program unchanged.
-/
theorem convert_callProgram (options : Options) (callee : String) {arguments : List Json}
    (noneInside : ∀ node ∈ (Json.arr arguments).nodes,
      Node.hasType "CallExpression" node = true →
        Node.isChain (Node.calleeOf node) (Text.pieces '.' callee) = .ok false) :
    (convert options callee (callProgram callee arguments)).outcome =
      (Conversion.ofParameters options (.arr arguments)).outcome.map fun conversion =>
        ⟨conversion.program, [conversion]⟩ := by
  have finds : (convertCalls options (Text.pieces '.' callee)
      (callProgram callee arguments).walk).outcome =
        (Conversion.ofParameters options (.arr arguments)).outcome.map ([·]) := by
    rw [Json.walk_eq_nodes, convertCalls_outcome fun _ => Json.exists_fields_of_mem_nodes,
      scan_callProgram options callee noneInside]
  rw [convert_outcome, finds]
  cases converts : (Conversion.ofParameters options (.arr arguments)).outcome with
  | error failure => rfl
  | ok conversion =>
      have nothingDropped := withoutRepeats_statements converts
      simp [Except.map, nothingDropped, Conversion.program]

/-- Arguments with a call inside, of another callee. -/
def sampleArguments : List Json :=
  [Node.literal (.str "app.Button"), Node.ofType "ObjectExpression" [("properties",
    .arr [Node.ofType "Property" [("key", Node.identifier (.str "label")),
      ("value", callOf "app.translate" [Node.literal (.str "Ok")])]])]]

theorem convert_callProgram_sampleArguments :
    (∀ node ∈ (Json.arr sampleArguments).nodes,
      Node.hasType "CallExpression" node = true →
        Node.isChain (Node.calleeOf node) (Text.pieces '.' "$.Class") = .ok false) ∧
    (∃ conversion, (Conversion.ofParameters sampleOptions (.arr sampleArguments)).outcome =
      .ok conversion) ∧
    (convert sampleOptions "$.Class" (callProgram "$.Class" sampleArguments)).outcome =
      (Conversion.ofParameters sampleOptions (.arr sampleArguments)).outcome.map fun conversion =>
        ⟨conversion.program, [conversion]⟩ := by
  have noneInside : ∀ node ∈ (Json.arr sampleArguments).nodes,
      Node.hasType "CallExpression" node = true →
        Node.isChain (Node.calleeOf node) (Text.pieces '.' "$.Class") = .ok false := by
    intro node isNode isCall
    have callsAre : (Json.arr sampleArguments).nodes.filter (Node.hasType "CallExpression") =
        [callOf "app.translate" [Node.literal (.str "Ok")]] := by decide +kernel
    have isFound := List.mem_filter.mpr ⟨isNode, isCall⟩
    rw [callsAre, List.mem_singleton] at isFound
    have namesAre : Text.pieces '.' "$.Class" = ["$", "Class"] := by decide +kernel
    have calleeIs : Node.calleeOf (callOf "app.translate" [Node.literal (.str "Ok")]) =
        Node.dot (Node.identifier (.str "app")) (.str "translate") := by decide +kernel
    rw [isFound, namesAre, calleeIs]
    rfl
  exact ⟨noneInside, ⟨_, rfl⟩, convert_callProgram sampleOptions "$.Class" noneInside⟩

end Program

end ClassLift

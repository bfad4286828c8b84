import ClassLift.Proofs.Conversion.Calls
import ClassLift.Proofs.Program.SingleCall

/-!
# What calls are left in a converted program

A converted program is searched like any other, and the search never fails. What
it finds has been there before: such a call is copied from inside the arguments
of a call that was converted. So if no call that is converted has another one
inside its arguments, nothing is left to convert.

One place needs care. Data can be added to the statements of a constructor, and
with them the block of its function changes. That block is a call only in a tree
that no parser gives; its callee stays the same even then, which is all that the
search looks at.
-/

namespace ClassLift

theorem exists_of_map_eq_ok {ε α β : Type} {result : Except ε α} {change : α → β} {value : β}
    (succeeds : result.map change = .ok value) :
    ∃ found, result = .ok found ∧ change found = value := by
  cases result with
  | error failure => exact absurd succeeds nofun
  | ok found => exact ⟨found, rfl, Except.ok.inj succeeds⟩

/-- Filtering with a test that does not fail is filtering with its results. -/
theorem filterM_eq_ok {ε α : Type} {test : α → Except ε Bool} {holds : α → Bool} {items : List α}
    (tested : ∀ item ∈ items, test item = .ok (holds item)) :
    items.filterM test = .ok (items.filter holds) := by
  have collects : ∀ kept, List.filterAuxM test items kept =
      .ok ((items.filter holds).reverse ++ kept) := by
    induction items with
    | nil => exact fun _ => rfl
    | cons item rest ih =>
        rcases List.forall_mem_cons.mp tested with ⟨itemTested, restTested⟩
        intro kept
        rw [List.filterAuxM, itemTested, ok_bind, ih restTested]
        cases isKept : holds item <;> simp [isKept]
  rw [List.filterM, collects, ok_bind]
  simp [pure, Except.pure]

namespace Json

theorem mem_nodes_trans {tree inner node : Json} (isInner : inner ∈ tree.nodes)
    (isNode : node ∈ inner.nodes) : node ∈ tree.nodes := by
  induction tree using partsInduction with
  | step tree ih =>
      rcases mem_nodes_iff.mp isInner with ⟨rfl, _⟩ | ⟨part, isPart, isInside⟩
      · exact isNode
      · exact mem_nodes_of_mem_parts isPart (ih part isPart isInside)

end Json

namespace Node

/-- Whether the comparison of a node's callee with the given names gives an answer. -/
def IsTested (names : List String) (node : Json) : Prop :=
  ∃ found, isChain (calleeOf node) names = .ok found

theorem isChain_super (names : List String) : isChain (ofType "Super" []) names = .ok false := by
  unfold isChain
  rcases names.reverse with _ | ⟨last, _ | ⟨next, earlier⟩⟩ <;> rfl

theorem calleeOf_superCall : calleeOf superCall = ofType "Super" [] :=
  rfl

theorem calleeOf_update {key : String} (differ : "callee" ≠ key) (change : Json → Json)
    (node : Json) : calleeOf (node.update key change) = calleeOf node := by
  rw [calleeOf, Json.field?_update_of_ne differ, calleeOf]

theorem isCallOf_of_isTested {names : List String} {fields : List (String × Json)}
    (tested : hasType "CallExpression" (.obj fields) = true → IsTested names (.obj fields)) :
    isCallOf names (.obj fields) = .ok (isMatch names (.obj fields)) := by
  rw [isCallOf_obj, isMatch]
  split
  · rename_i isCall
    rcases tested isCall with ⟨found, tests⟩
    simp [isCall, tests]
  · rename_i notCall
    simp [notCall]

theorem EveryCall.self {allowed : Json → Prop} {tree : Json} (every : EveryCall allowed tree)
    (isCall : hasType "CallExpression" tree = true) : allowed tree := by
  apply every tree _ isCall
  rw [Json.mem_nodes_iff]
  left
  refine ⟨rfl, ?_⟩
  cases tree with
  | obj fields =>
      simp only [hasType, Json.field?, Option.any_eq_true] at isCall
      rcases isCall with ⟨type, found, _⟩
      simp [Json.isNode, Json.hasType, found]
  | null | bool | int | float | str | arr => simp [hasType, Json.field?] at isCall

theorem mem_argumentsOf {call node : Json} (isNode : node ∈ (argumentsOf call).nodes) :
    node ∈ call.nodes := by
  unfold argumentsOf at isNode
  cases found : call.field? "arguments" with
  | none => simp [found, Json.nodes] at isNode
  | some value =>
      rw [found, Option.getD_some] at isNode
      exact Json.mem_nodes_of_mem_parts (Json.mem_parts_of_field? found) isNode

/-- Whether the body of a function is missing, null or a block. -/
def hasPlainBody (function : Json) : Bool :=
  match function.field? "body" with
  | none | some .null => true
  | some body => hasType "BlockStatement" body

theorem not_isCall_of_hasPlainBody {function body : Json}
    (isPlain : hasPlainBody function = true) (bodyIs : function.field? "body" = some body) :
    hasType "CallExpression" body = false := by
  unfold hasPlainBody at isPlain
  rw [bodyIs] at isPlain
  cases typeIs : body.field? "type" with
  | none => simp [hasType, typeIs]
  | some type =>
      cases body with
      | null => simp [Json.field?] at typeIs
      | bool | int | float | str | arr | obj =>
          simp only [hasType, typeIs, Option.any_some, Json.isStr_iff] at isPlain ⊢
          simp [isPlain, Json.isStr]

end Node

namespace MemberTable

/-- Whether every function listed in a table has a block as its body, or none. -/
def HasPlainBodies (table : Json) : Prop :=
  ∀ property ∈ listed table, ∀ function, property.field? "value" = some function →
    Node.hasType "FunctionExpression" function = true → Node.hasPlainBody function = true

theorem hasPlainBody_of_mem_keptEntries {table : Json} (plain : HasPlainBodies table)
    {entry : MemberEntry} (isEntry : entry ∈ keptEntries table)
    (hasFunction : entry.hasFunction = true) : Node.hasPlainBody entry.value = true := by
  rcases List.mem_map.mp isEntry with ⟨property, isKept, rfl⟩
  have isListed := (List.mem_filter.mp isKept).1
  unfold MemberEntry.hasFunction MemberEntry.ofProperty at hasFunction
  unfold MemberEntry.ofProperty
  cases found : property.field? "value" with
  | none =>
      rw [found] at hasFunction
      exact absurd hasFunction Bool.false_ne_true
  | some function =>
      simp only [found, Option.getD_some] at hasFunction ⊢
      exact plain property isListed function found hasFunction

end MemberTable

namespace Conversion

/-- What depends on the callee alone is not changed by data that is added to a block. -/
theorem allowsBlocks_of_callee {allowed : Json → Prop} {parameters : Json}
    (byCallee : ∀ node other, Node.calleeOf other = Node.calleeOf node → allowed node →
      allowed other)
    (inArguments : Node.EveryCall allowed parameters) : AllowsBlocks allowed parameters := by
  intro table isTable entry isEntry _ block bodyIs isCall statements
  have entryEvery := MemberTable.everyCall_of_mem_keptEntries (inArguments.part isTable) isEntry
  have blockEvery := entryEvery.value.part (Json.mem_parts_of_field? bodyIs)
  exact byCallee block _ (Node.calleeOf_update (by decide) _ block) (blockEvery.self isCall)

/-- Where the bodies of functions are blocks, data is not added to a call. -/
theorem allowsBlocks_of_plain {allowed : Json → Prop} {parameters : Json}
    (plain : ∀ table ∈ parameters.parts, MemberTable.HasPlainBodies table) :
    AllowsBlocks allowed parameters := by
  intro table isTable entry isEntry hasFunction block bodyIs isCall
  have isPlain := MemberTable.hasPlainBody_of_mem_keptEntries (plain table isTable) isEntry
    hasFunction
  simp [Node.not_isCall_of_hasPlainBody isPlain bodyIs] at isCall

end Conversion

namespace Program

variable {options : Options} {callee : String} {names : List String} {program : Json}
  {converted : Converted}

/-- A node whose visit succeeds has been compared with the callee, if it is a call. -/
theorem isTested_of_visit {node : Json} {found : Option Conversion}
    (visited : visit options names node = .ok found)
    (isCall : Node.hasType "CallExpression" node = true) : Node.IsTested names node := by
  unfold visit at visited
  rw [if_pos isCall] at visited
  cases tests : Node.isChain (Node.calleeOf node) names with
  | error failure => simp [tests] at visited
  | ok answer => exact ⟨answer, tests⟩

/-- The conversions of a program are those of its matching calls, and every call was compared. -/
theorem conversions_of_convert
    (converts : (convert options callee program).outcome = .ok converted) :
    converted.program = Node.program (.arr
        (withoutRepeats (converted.conversions.flatMap (·.statements)))) ∧
      Node.EveryCall (Node.IsTested (Text.pieces '.' callee)) program ∧
      ∀ conversion ∈ converted.conversions, ∃ call ∈ program.nodes,
        Node.isMatch (Text.pieces '.' callee) call = true ∧
          (Conversion.ofParameters options (Node.argumentsOf call)).outcome = .ok conversion := by
  rw [convert_outcome, Json.walk_eq_nodes,
    convertCalls_outcome fun _ isNode => Json.exists_fields_of_mem_nodes isNode] at converts
  rcases exists_of_map_eq_ok converts with ⟨_, scanned, rfl⟩
  rcases exists_of_map_eq_ok scanned with ⟨visits, visited, rfl⟩
  have visitsAre := map_eq_of_mapM_eq_ok visited
  refine ⟨rfl, ?_, ?_⟩
  · intro node isNode isCall
    have isVisited : visit options (Text.pieces '.' callee) node ∈ visits.map .ok := by
      rw [← visitsAre]
      exact List.mem_map.mpr ⟨node, isNode, rfl⟩
    rcases List.mem_map.mp isVisited with ⟨found, _, visitedNode⟩
    exact isTested_of_visit visitedNode.symm isCall
  · intro conversion isConversion
    have isOutcome : (Except.ok conversion : Except Failure Conversion) ∈
        (visits.filterMap id).map .ok :=
      List.mem_map.mpr ⟨conversion, isConversion, rfl⟩
    rw [map_ok_eq_of_visits visitsAre] at isOutcome
    rcases List.mem_map.mp isOutcome with ⟨call, isMatching, outcomeIs⟩
    rcases List.mem_filter.mp isMatching with ⟨isNode, isMatch⟩
    exact ⟨call, isNode, isMatch, outcomeIs⟩

/-- What holds of the calls in every converted conversion holds of the calls in the program. -/
theorem everyCall_converted (allowed : Json → Prop) (superAllowed : allowed Node.superCall)
    (inCalls : ∀ call ∈ program.nodes, Node.isMatch (Text.pieces '.' callee) call = true →
      Node.EveryCall allowed (Node.argumentsOf call) ∧
        Conversion.AllowsBlocks allowed (Node.argumentsOf call))
    (converts : (convert options callee program).outcome = .ok converted) :
    Node.EveryCall allowed converted.program := by
  rcases conversions_of_convert converts with ⟨programIs, _, conversionsAre⟩
  rw [programIs]
  simp only [Node.program, ne_eq, String.reduceEq, not_false_eq_true, Node.everyCall_ofType,
    List.forall_mem_cons, Node.everyCall_str, Node.everyCall_arr, true_and]
  refine ⟨?_, by simp⟩
  intro statement isStatement
  rw [mem_withoutRepeats] at isStatement
  rcases List.mem_flatMap.mp isStatement with ⟨conversion, isConversion, isStatement⟩
  rcases conversionsAre conversion isConversion with ⟨call, isNode, isMatch, callConverts⟩
  rcases inCalls call isNode isMatch with ⟨inArguments, inBlocks⟩
  exact Conversion.everyCall_of_mem_statements superAllowed inArguments inBlocks callConverts
    isStatement

theorem everyCall_argumentsOf {allowed : Json → Prop} (every : Node.EveryCall allowed program)
    {call : Json} (isNode : call ∈ program.nodes) :
    Node.EveryCall allowed (Node.argumentsOf call) := by
  intro node isInside
  exact every node (Json.mem_nodes_trans isNode (Node.mem_argumentsOf isInside))

theorem isTested_byCallee (node other : Json) (same : Node.calleeOf other = Node.calleeOf node)
    (tested : Node.IsTested names node) : Node.IsTested names other := by
  rwa [Node.IsTested, same]

/-- A converted program can be searched. -/
theorem everyCall_isTested (converts : (convert options callee program).outcome = .ok converted) :
    Node.EveryCall (Node.IsTested (Text.pieces '.' callee)) converted.program := by
  have tested := (conversions_of_convert converts).2.1
  refine everyCall_converted _ ⟨false, Node.isChain_super _⟩ ?_ converts
  intro call isNode _
  have inArguments := everyCall_argumentsOf tested isNode
  exact ⟨inArguments, Conversion.allowsBlocks_of_callee isTested_byCallee inArguments⟩

theorem findCalls_of_everyCall
    (tested : Node.EveryCall (Node.IsTested (Text.pieces '.' callee)) program) :
    findCalls callee program =
      .ok (program.nodes.filter (Node.isMatch (Text.pieces '.' callee))) := by
  rw [findCalls, Json.walk_eq_nodes]
  apply filterM_eq_ok
  intro node isNode
  rcases Json.exists_fields_of_mem_nodes isNode with ⟨fields, rfl⟩
  exact Node.isCallOf_of_isTested (tested _ isNode)

/-- A program whose calls are all of other callees is converted to an empty one. -/
theorem convert_of_noMatch (options : Options)
    (others : Node.EveryCall (fun node =>
      Node.isChain (Node.calleeOf node) (Text.pieces '.' callee) = .ok false) program) :
    (convert options callee program).outcome = .ok ⟨Node.program (.arr []), []⟩ := by
  have givesNothing : ∀ node ∈ program.nodes,
      visit options (Text.pieces '.' callee) node = .ok none := by
    intro node isNode
    cases isCall : Node.hasType "CallExpression" node with
    | false => exact visit_of_not_call isCall
    | true => rw [visit, if_pos isCall, others node isNode isCall]
  rw [convert_outcome, Json.walk_eq_nodes,
    convertCalls_outcome fun _ isNode => Json.exists_fields_of_mem_nodes isNode,
    scan_eq_nil givesNothing]
  rfl

/-- No call that is converted has another one inside its arguments. -/
def NestsNone (names : List String) (program : Json) : Prop :=
  ∀ outer ∈ program.nodes, Node.isMatch names outer = true →
    ∀ inner ∈ (Node.argumentsOf outer).nodes, Node.isMatch names inner = false

/-- The functions in the tables of the calls that are converted have blocks as bodies, or none. -/
def TablesPlain (names : List String) (program : Json) : Prop :=
  ∀ outer ∈ program.nodes, Node.isMatch names outer = true →
    ∀ table ∈ (Node.argumentsOf outer).parts, MemberTable.HasPlainBodies table

theorem everyCall_noMatch (nestsNone : NestsNone (Text.pieces '.' callee) program)
    (converts : (convert options callee program).outcome = .ok converted) :
    Node.EveryCall (fun node =>
      Node.isChain (Node.calleeOf node) (Text.pieces '.' callee) = .ok false)
      converted.program := by
  have tested := (conversions_of_convert converts).2.1
  refine everyCall_converted _ (Node.isChain_super _) ?_ converts
  intro outer isNode isMatch
  have inArguments : Node.EveryCall (fun node =>
      Node.isChain (Node.calleeOf node) (Text.pieces '.' callee) = .ok false)
      (Node.argumentsOf outer) := by
    intro inner isInner isCall
    rcases everyCall_argumentsOf tested isNode inner isInner isCall with ⟨found, tests⟩
    have notMatch := nestsNone outer isNode isMatch inner isInner
    simp only [Node.isMatch, isCall, tests, Bool.true_and] at notMatch
    rw [tests, notMatch]
  refine ⟨inArguments, Conversion.allowsBlocks_of_callee ?_ inArguments⟩
  intro node other same isOther
  rwa [same]

theorem everyCall_nested (plain : TablesPlain (Text.pieces '.' callee) program)
    (converts : (convert options callee program).outcome = .ok converted) :
    Node.EveryCall (fun node => Node.isMatch (Text.pieces '.' callee) node = true →
      ∃ outer ∈ program.nodes, Node.isMatch (Text.pieces '.' callee) outer = true ∧
        node ∈ (Node.argumentsOf outer).nodes) converted.program := by
  refine everyCall_converted _ ?_ ?_ converts
  · intro isMatch
    simp [Node.isMatch, Node.calleeOf_superCall, Node.isChain_super] at isMatch
  · intro outer isNode isMatch
    refine ⟨?_, Conversion.allowsBlocks_of_plain (plain outer isNode isMatch)⟩
    intro inner isInner _ _
    exact ⟨outer, isNode, isMatch, isInner⟩

/--
Whatever a converted program still has of calls that match was inside the arguments
of a call that was converted. If there was none inside them, none is left, and
converting the program once more gives an empty one.
-/
theorem convert_leavesNested
    (converts : (convert options callee program).outcome = .ok converted) :
    ∃ left, findCalls callee converted.program = .ok left ∧
      (TablesPlain (Text.pieces '.' callee) program → ∀ call ∈ left,
        ∃ outer ∈ program.nodes, Node.isMatch (Text.pieces '.' callee) outer = true ∧
          call ∈ (Node.argumentsOf outer).nodes) ∧
      (NestsNone (Text.pieces '.' callee) program → left = [] ∧
        ∀ later, (convert later callee converted.program).outcome =
          .ok ⟨Node.program (.arr []), []⟩) := by
  refine ⟨_, findCalls_of_everyCall (everyCall_isTested converts), ?_, ?_⟩
  · intro plain call isLeft
    rcases List.mem_filter.mp isLeft with ⟨isNode, isMatch⟩
    have isCall : Node.hasType "CallExpression" call = true := by
      simp only [Node.isMatch, Bool.and_eq_true] at isMatch
      exact isMatch.1
    exact everyCall_nested plain converts call isNode isCall isMatch
  · intro nestsNone
    have others := everyCall_noMatch nestsNone converts
    refine ⟨?_, fun later => convert_of_noMatch later others⟩
    rw [List.filter_eq_nil_iff]
    intro node isNode isMatch
    cases isCall : Node.hasType "CallExpression" node with
    | false => simp [Node.isMatch, isCall] at isMatch
    | true => simp [Node.isMatch, others node isNode isCall] at isMatch

/-- A call with a table that lists nothing. -/
def nestedCall : Json :=
  callOf "$.Class" [Node.literal (.str "app.Item"),
    Node.ofType "ObjectExpression" [("properties", .arr [])]]

/-- A call whose table lists the one above as data, next to a method. -/
def nestingCall : Json :=
  let property (name : String) (value : Json) : Json :=
    Node.ofType "Property" [("key", Node.identifier (.str name)), ("value", value)]
  callOf "$.Class" [Node.literal (.str "app.Menu"),
    Node.ofType "ObjectExpression" [("properties",
      .arr [property "item" nestedCall, property "show" Node.emptyFunction])]]

theorem tablesPlain_nestingCall : TablesPlain (Text.pieces '.' "$.Class") nestingCall := by
  have plain : ∀ call ∈ [nestingCall, nestedCall], ∀ table ∈ (Node.argumentsOf call).parts,
      ∀ property ∈ MemberTable.listed table, ∀ function ∈ property.field? "value",
        Node.hasType "FunctionExpression" function = true →
          Node.hasPlainBody function = true := by
    decide +kernel
  have matchesAre : nestingCall.nodes.filter
      (Node.isMatch (Text.pieces '.' "$.Class")) = [nestingCall, nestedCall] := by
    decide +kernel
  intro outer isNode isMatch
  have isFound := List.mem_filter.mpr ⟨isNode, isMatch⟩
  rw [matchesAre] at isFound
  exact plain outer isFound

theorem nestsNone_nestedCall : NestsNone (Text.pieces '.' "$.Class") nestedCall := by
  have noneInside : ∀ outer ∈ nestedCall.nodes, ∀ inner ∈ (Node.argumentsOf outer).nodes,
      Node.isMatch (Text.pieces '.' "$.Class") inner = false := by
    decide +kernel
  exact fun outer isNode _ => noneInside outer isNode

theorem convertCalls_nestingCall :
    ((convertCalls sampleOptions (Text.pieces '.' "$.Class") nestingCall.nodes).outcome.map
      fun conversions =>
        (Node.program (.arr (withoutRepeats (conversions.flatMap (·.statements))))).nodes.filter
          (Node.isMatch (Text.pieces '.' "$.Class"))) = .ok [nestedCall] := by
  decide +kernel

theorem convertCalls_nestedCall :
    (convertCalls sampleOptions (Text.pieces '.' "$.Class") nestedCall.nodes).outcome.map
      List.length = .ok 1 := by
  decide +kernel

theorem convert_leavesNested_nestingCall :
    (∃ converted, (convert sampleOptions "$.Class" nestingCall).outcome = .ok converted ∧
      findCalls "$.Class" converted.program = .ok [nestedCall] ∧
      ∃ outer ∈ nestingCall.nodes, Node.isMatch (Text.pieces '.' "$.Class") outer = true ∧
        nestedCall ∈ (Node.argumentsOf outer).nodes) ∧
    ∃ converted, (convert sampleOptions "$.Class" nestedCall).outcome = .ok converted ∧
      converted.conversions.length = 1 ∧ findCalls "$.Class" converted.program = .ok [] := by
  constructor
  · obtain ⟨conversions, finds, leaves⟩ := exists_of_map_eq_ok convertCalls_nestingCall
    have converts := convert_outcome sampleOptions "$.Class" nestingCall
    rw [Json.walk_eq_nodes, finds] at converts
    obtain ⟨left, isLeft, areNested, _⟩ := convert_leavesNested converts
    have leftIs := findCalls_of_everyCall (everyCall_isTested converts)
    rw [leaves, isLeft] at leftIs
    obtain rfl := Except.ok.inj leftIs
    exact ⟨_, converts, isLeft, areNested tablesPlain_nestingCall nestedCall (by simp)⟩
  · obtain ⟨conversions, finds, isSingle⟩ := exists_of_map_eq_ok convertCalls_nestedCall
    have converts := convert_outcome sampleOptions "$.Class" nestedCall
    rw [Json.walk_eq_nodes, finds] at converts
    obtain ⟨left, isLeft, _, areNone⟩ := convert_leavesNested converts
    obtain rfl := (areNone nestsNone_nestedCall).1
    exact ⟨_, converts, isSingle, isLeft⟩

end Program

end ClassLift

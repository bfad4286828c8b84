import ClassLift.Proofs.Program.Merge

/-!
# Converting a program is a scan of its nodes

The calls of a program are looked for and converted in one go. What that gives
can be said of each node alone, by `Program.visit`: a call is compared with the
callee and, if it matches, its arguments are converted. The first node whose
visit fails, in source order, decides how the whole conversion fails; if there is
none, the results are those of the matching calls, in source order.
-/

namespace ClassLift

section Sequences

variable {ε α β : Type} {action : α → Except ε β} {items : List α}

theorem mapM_cons_of_ok {item : α} {value : β} (succeeds : action item = .ok value) :
    (item :: items).mapM action = (items.mapM action).map (value :: ·) := by
  rw [List.mapM_cons, succeeds, ok_bind]
  cases items.mapM action <;> rfl

/-- A sequence of actions fails exactly as the first of them that fails. -/
theorem mapM_eq_error_iff {failure : ε} :
    items.mapM action = .error failure ↔
      ∃ front item back, items = front ++ item :: back ∧
        (∀ earlier ∈ front, ∃ value, action earlier = .ok value) ∧
        action item = .error failure := by
  induction items with
  | nil => simp [pure, Except.pure]
  | cons head rest ih =>
      cases acts : action head with
      | error other =>
          rw [List.mapM_cons, acts, error_bind, Except.error.injEq]
          constructor
          · rintro rfl
            exact ⟨[], head, rest, rfl, by simp, acts⟩
          · rintro ⟨front, item, back, itemsAre, succeed, fails⟩
            cases front with
            | nil =>
                obtain ⟨rfl, _⟩ := List.cons.inj itemsAre
                exact Except.error.inj (acts.symm.trans fails)
            | cons first others =>
                obtain ⟨rfl, _⟩ := List.cons.inj itemsAre
                rcases succeed head List.mem_cons_self with ⟨value, succeeds⟩
                simp [acts] at succeeds
      | ok value =>
          have restFails : ((head :: rest).mapM action = .error failure) ↔
              rest.mapM action = .error failure := by
            rw [mapM_cons_of_ok acts]
            cases rest.mapM action <;> simp [Except.map]
          rw [restFails, ih]
          constructor
          · rintro ⟨front, item, back, rfl, succeed, fails⟩
            exact ⟨head :: front, item, back, rfl,
              List.forall_mem_cons.mpr ⟨⟨value, acts⟩, succeed⟩, fails⟩
          · rintro ⟨front, item, back, itemsAre, succeed, fails⟩
            cases front with
            | nil =>
                obtain ⟨rfl, _⟩ := List.cons.inj itemsAre
                simp [acts] at fails
            | cons first others =>
                obtain ⟨rfl, rfl⟩ := List.cons.inj itemsAre
                exact ⟨others, item, back, rfl, (List.forall_mem_cons.mp succeed).2, fails⟩

theorem map_eq_of_mapM_eq_ok {values : List β} (succeeds : items.mapM action = .ok values) :
    items.map action = values.map .ok := by
  induction items generalizing values with
  | nil =>
      obtain rfl : [] = values := by simpa [pure, Except.pure] using succeeds
      rfl
  | cons head rest ih =>
      rw [List.mapM_cons] at succeeds
      rcases bind_eq_ok_iff.mp succeeds with ⟨value, acts, succeeds⟩
      rcases bind_eq_ok_iff.mp succeeds with ⟨others, restActs, succeeds⟩
      obtain rfl := pure_eq_ok_iff.mp succeeds
      rw [List.map_cons, List.map_cons, acts, ih restActs]

end Sequences

namespace Node

def calleeOf (call : Json) : Json :=
  (call.field? "callee").getD .null

def argumentsOf (call : Json) : Json :=
  (call.field? "arguments").getD .null

/-- Whether a node is a call whose callee is the chain of the given names. -/
def isMatch (names : List String) (node : Json) : Bool :=
  hasType "CallExpression" node &&
    match isChain (calleeOf node) names with
    | .ok found => found
    | .error _ => false

theorem isCallOf_obj (names : List String) (fields : List (String × Json)) :
    isCallOf names (.obj fields) =
      if hasType "CallExpression" (.obj fields) then isChain (calleeOf (.obj fields)) names
      else .ok false := by
  simp only [isCallOf, Json.field, ok_bind, Json.isStr_getD_null]
  rfl

end Node

namespace Program

/-- What one node gives: a call is compared with the callee and converted if it matches. -/
def visit (options : Options) (names : List String) (node : Json) :
    Except Failure (Option Conversion) :=
  if Node.hasType "CallExpression" node then
    match Node.isChain (Node.calleeOf node) names with
    | .error failure => .error failure
    | .ok false => .ok none
    | .ok true => (Conversion.ofParameters options (Node.argumentsOf node)).outcome.map some
  else .ok none

variable {options : Options} {names : List String}

theorem visit_eq_ok_none {node : Json} (visited : visit options names node = .ok none) :
    Node.isMatch names node = false := by
  unfold visit at visited
  unfold Node.isMatch
  split at visited
  · split at visited
    · simp at visited
    · rename_i isOther
      simp [isOther]
    · cases converts : (Conversion.ofParameters options (Node.argumentsOf node)).outcome <;>
        simp [converts, Except.map] at visited
  · rename_i notCall
    simp [notCall]

theorem visit_eq_ok_some {node : Json} {conversion : Conversion}
    (visited : visit options names node = .ok (some conversion)) :
    Node.isMatch names node = true ∧
      (Conversion.ofParameters options (Node.argumentsOf node)).outcome = .ok conversion := by
  unfold visit at visited
  unfold Node.isMatch
  split at visited
  · rename_i isCall
    split at visited
    · simp at visited
    · simp at visited
    · rename_i isCallee
      cases converts : (Conversion.ofParameters options (Node.argumentsOf node)).outcome with
      | error failure => simp [converts, Except.map] at visited
      | ok other =>
          obtain rfl : other = conversion := by simpa [converts, Except.map] using visited
          simp [isCall, isCallee]
  · simp at visited

/-- The interleaved search and conversion of calls visits one node after the other. -/
theorem convertCalls_outcome {nodes : List Json}
    (areObjects : ∀ node ∈ nodes, ∃ fields, node = .obj fields) :
    (convertCalls options names nodes).outcome =
      (nodes.mapM (visit options names)).map (·.filterMap id) := by
  induction nodes with
  | nil => rfl
  | cons node rest ih =>
      rcases List.forall_mem_cons.mp areObjects with ⟨⟨fields, rfl⟩, restObjects⟩
      have argumentsRead : (Json.obj fields).field "arguments" =
          .ok (Node.argumentsOf (.obj fields)) := rfl
      simp only [convertCalls, Traced.outcome_bind, Traced.outcome_liftM, Node.isCallOf_obj]
      rw [List.mapM_cons, visit]
      by_cases isCall : Node.hasType "CallExpression" (.obj fields) = true
      · rw [if_pos isCall, if_pos isCall]
        cases Node.isChain (Node.calleeOf (.obj fields)) names with
        | error failure => rfl
        | ok isCallee =>
            cases isCallee with
            | false =>
                simp only [ok_bind, Bool.false_eq_true, if_false, ih restObjects]
                cases rest.mapM (visit options names) <;> rfl
            | true =>
                simp only [ok_bind, if_true, Traced.outcome_bind, Traced.outcome_liftM,
                  argumentsRead, Traced.outcome_pure, ih restObjects]
                cases (Conversion.ofParameters options
                  (Node.argumentsOf (.obj fields))).outcome with
                | error failure => rfl
                | ok conversion => cases rest.mapM (visit options names) <;> rfl
      · rw [if_neg isCall, if_neg isCall]
        simp only [ok_bind, Bool.false_eq_true, if_false, ih restObjects]
        cases rest.mapM (visit options names) <;> rfl

/-- The conversions that a scan gives are those of the matching nodes. -/
theorem map_ok_eq_of_visits {nodes : List Json} {visits : List (Option Conversion)}
    (visited : nodes.map (visit options names) = visits.map .ok) :
    (visits.filterMap id).map .ok =
      (nodes.filter (Node.isMatch names)).map fun call =>
        (Conversion.ofParameters options (Node.argumentsOf call)).outcome := by
  induction nodes generalizing visits with
  | nil =>
      obtain rfl : visits = [] := by simpa using visited.symm
      rfl
  | cons node rest ih =>
      cases visits with
      | nil => simp at visited
      | cons first others =>
          obtain ⟨visitedFirst, visitedRest⟩ := List.cons.inj visited
          have restAre := ih visitedRest
          cases first with
          | none =>
              have noMatch : ¬Node.isMatch names node = true := by
                simp [visit_eq_ok_none visitedFirst]
              rw [List.filter_cons_of_neg noMatch, ← restAre]
              rfl
          | some conversion =>
              rcases visit_eq_ok_some visitedFirst with ⟨isMatch, converts⟩
              rw [List.filter_cons_of_pos isMatch, List.map_cons, ← restAre, converts]
              rfl

/--
What converting a program comes to: a failure is that of the first node in source
order whose visit fails, and the results are those of the matching calls, in source
order. The nodes inside the arguments of a call are among those behind it.
-/
structure IsScan (options : Options) (names : List String) (nodes : List Json)
    (outcome : Except Failure Converted) : Prop where
  fails_iff : ∀ failure, outcome = .error failure ↔
    ∃ front node back, nodes = front ++ node :: back ∧
      (∀ earlier ∈ front, ∃ result, visit options names earlier = .ok result) ∧
      visit options names node = .error failure
  resultsAre : ∀ converted, outcome = .ok converted →
    converted.conversions.map .ok = (nodes.filter (Node.isMatch names)).map fun call =>
      (Conversion.ofParameters options (Node.argumentsOf call)).outcome
  nestedBehind : ∀ call ∈ nodes, ∃ front inside back,
    nodes = front ++ call :: inside ++ back ∧ (Node.argumentsOf call).nodes <:+: inside

/-- Converting a program is a scan of its nodes from the first to the last. -/
theorem convert_isScan (options : Options) (callee : String) (program : Json) :
    IsScan options (Text.pieces '.' callee) program.nodes
      (convert options callee program).outcome := by
  have finds : (convertCalls options (Text.pieces '.' callee) program.walk).outcome =
      (program.nodes.mapM (visit options (Text.pieces '.' callee))).map (·.filterMap id) := by
    rw [Json.walk_eq_nodes]
    exact convertCalls_outcome fun _ isNode => Json.exists_fields_of_mem_nodes isNode
  refine ⟨?_, ?_, ?_⟩
  · intro failure
    rw [convert_outcome, finds, ← mapM_eq_error_iff]
    cases program.nodes.mapM (visit options (Text.pieces '.' callee)) <;> simp [Except.map]
  · intro converted converts
    rw [convert_outcome, finds] at converts
    cases visited : program.nodes.mapM (visit options (Text.pieces '.' callee)) with
    | error failure => simp [visited, Except.map] at converts
    | ok visits =>
        obtain rfl : _ = converted := by simpa [visited, Except.map] using converts
        exact map_ok_eq_of_visits (map_eq_of_mapM_eq_ok visited)
  · intro call isNode
    rcases Json.exists_inside_of_mem_nodes isNode with ⟨front, inside, back, nodesAre, contains⟩
    refine ⟨front, inside, back, nodesAre, ?_⟩
    cases found : call.field? "arguments" with
    | none =>
        have noArguments : (Node.argumentsOf call).nodes = [] := by
          simp [Node.argumentsOf, found, Json.nodes]
        rw [noArguments]
        exact List.nil_infix
    | some parameters =>
        have argumentsAre : Node.argumentsOf call = parameters := by simp [Node.argumentsOf, found]
        rw [argumentsAre]
        exact contains "arguments" parameters found

end Program

end ClassLift

import ClassLift.Proofs.Conversion.Paths
import ClassLift.Proofs.Tree.Walk

/-!
# Merged programs

The conversions of a program are merged into one body. The merge remembers only
the names of the constants it has kept. Since all conversions take their
constants from the same global object, two constants of one name are the same
statement, so what is dropped has stood in the body before. The merged body is
`Program.withoutRepeats` of all statements in order, and no path in it loses the
constant it starts from.
-/

namespace ClassLift

namespace Program

/-- Whether the statement at an index is a constant that is equal to an earlier statement. -/
def isRepeat (statements : List Json) (indexed : Json × Nat) : Bool :=
  Node.isConstant indexed.1 && decide (indexed.1 ∈ statements.take indexed.2)

/-- The statements without those constants. -/
def withoutRepeats (statements : List Json) : List Json :=
  (statements.zipIdx.filter (!isRepeat statements ·)).map Prod.fst

/-- The same by recursion, after the statements seen so far. -/
def keepFirst (seen : List Json) : List Json → List Json
  | [] => []
  | statement :: rest =>
      if Node.isConstant statement = true ∧ statement ∈ seen then
        keepFirst (seen ++ [statement]) rest
      else statement :: keepFirst (seen ++ [statement]) rest

theorem keepFirst_eq_filter (seen statements : List Json) :
    keepFirst seen statements =
      ((statements.zipIdx seen.length).filter (!isRepeat (seen ++ statements) ·)).map Prod.fst := by
  induction statements generalizing seen with
  | nil => rfl
  | cons statement rest ih =>
      have later := ih (seen ++ [statement])
      rw [List.length_append, List.length_singleton, List.append_assoc,
        List.singleton_append] at later
      have here : isRepeat (seen ++ statement :: rest) (statement, seen.length) =
          decide (Node.isConstant statement = true ∧ statement ∈ seen) := by
        simp [isRepeat]
      rw [keepFirst, later, List.zipIdx_cons, List.filter_cons, here]
      by_cases isRepeated : Node.isConstant statement = true ∧ statement ∈ seen
      · simp [isRepeated]
      · simp [isRepeated]

theorem withoutRepeats_eq (statements : List Json) :
    withoutRepeats statements = keepFirst [] statements := by
  rw [keepFirst_eq_filter]
  rfl

theorem keepFirst_append (seen front back : List Json) :
    keepFirst seen (front ++ back) = keepFirst seen front ++ keepFirst (seen ++ front) back := by
  induction front generalizing seen with
  | nil => simp [keepFirst]
  | cons statement rest ih =>
      rw [List.cons_append, keepFirst, keepFirst, ih, List.append_assoc, List.singleton_append]
      split <;> rfl

theorem mem_keepFirst_iff {seen statements : List Json} {statement : Json} :
    statement ∈ keepFirst seen statements ↔
      statement ∈ statements ∧ (Node.isConstant statement = true → statement ∉ seen) := by
  induction statements generalizing seen with
  | nil => simp [keepFirst]
  | cons head rest ih =>
      by_cases same : statement = head
      · subst same
        by_cases isRepeated : Node.isConstant statement = true ∧ statement ∈ seen
        · simp [keepFirst, isRepeated, ih]
        · rw [keepFirst, if_neg isRepeated]
          simpa using isRepeated
      · have later : statement ∈ keepFirst (seen ++ [head]) rest ↔
            statement ∈ rest ∧ (Node.isConstant statement = true → statement ∉ seen) := by
          rw [ih]
          simp [same]
        rw [keepFirst]
        split
        · simpa [same] using later
        · simpa [same] using later

@[simp]
theorem mem_withoutRepeats {statements : List Json} {statement : Json} :
    statement ∈ withoutRepeats statements ↔ statement ∈ statements := by
  rw [withoutRepeats_eq, mem_keepFirst_iff]
  simp

/-- A statement that is no constant stays, behind what is kept of the statements before it. -/
theorem withoutRepeats_append_cons {statement : Json}
    (notConstant : Node.isConstant statement = false) (before after : List Json) :
    ∃ closing, withoutRepeats (before ++ statement :: after) =
      withoutRepeats before ++ statement :: closing := by
  rw [withoutRepeats_eq, withoutRepeats_eq, keepFirst_append, keepFirst]
  simp [notConstant]

theorem constant_mem_of_constantName? {rootObject name : String} {statements : List Json}
    (generated : ∀ statement ∈ statements, Layout.IsGenerated rootObject statement)
    (isDeclared : name ∈ statements.filterMap Node.constantName?) :
    Layout.constant rootObject name ∈ statements := by
  rcases List.mem_filterMap.mp isDeclared with ⟨statement, statementMem, nameIs⟩
  rcases generated statement statementMem with ⟨other, rfl⟩ | ⟨left, right, rfl⟩
  · obtain rfl : other = name := Option.some.inj nameIs
    exact statementMem
  · simp at nameIs

/-- Constants of the same global object are kept once for each name. -/
theorem nodup_constantName?_keepFirst {rootObject : String} (seen : List Json)
    {statements : List Json}
    (generated : ∀ statement ∈ statements, Layout.IsGenerated rootObject statement) :
    ((keepFirst seen statements).filterMap Node.constantName?).Nodup := by
  induction statements generalizing seen with
  | nil => simp [keepFirst]
  | cons head rest ih =>
      rcases List.forall_mem_cons.mp generated with ⟨headGenerated, restGenerated⟩
      have restNodup := ih (seen ++ [head]) restGenerated
      rw [keepFirst]
      split
      · exact restNodup
      · rcases headGenerated with ⟨name, rfl⟩ | ⟨left, right, rfl⟩
        · rw [List.filterMap_cons_some (Layout.constantName?_constant rootObject name),
            List.nodup_cons]
          refine ⟨?_, restNodup⟩
          -- A second constant of this name would be the one that has just been seen.
          intro isLater
          have isKept : Layout.constant rootObject name ∈
              keepFirst (seen ++ [Layout.constant rootObject name]) rest := by
            apply constant_mem_of_constantName? _ isLater
            intro statement isKept
            exact restGenerated statement (mem_keepFirst_iff.mp isKept).1
          have notSeen := (mem_keepFirst_iff.mp isKept).2 rfl
          simp at notSeen
        · rw [List.filterMap_cons_none (Node.constantName?_assignmentStatement left right)]
          exact restNodup

/-! ## What the merge remembers -/

/-- The remembered names are those of the constants among the statements seen. -/
def Remembers (rootObject : String) (declared seen : List Json) : Prop :=
  ∃ names : List String, declared = names.map Json.str ∧
    ∀ name, name ∈ names ↔ Layout.constant rootObject name ∈ seen

section

variable {rootObject : String} {declared seen : List Json}

theorem constant_injective : Function.Injective (Layout.constant rootObject) := by
  intro name other same
  have sameName := congrArg Node.constantName? same
  exact Option.some.inj sameName

theorem Remembers.isDeclared_eq (remembers : Remembers rootObject declared seen) (name : String) :
    isDeclared declared (.str name) = .ok (decide (Layout.constant rootObject name ∈ seen)) := by
  rcases remembers with ⟨names, rfl, namesAre⟩
  have isNamed : (names.map Json.str).any (·.sameValue (.str name)) = decide (name ∈ names) := by
    rw [Bool.eq_iff_iff]
    simp [MemberEntry.sameValue_str, Json.isStr]
  have isPlain : Node.isName (.str name) = true := rfl
  rw [isDeclared, if_pos isPlain, isNamed]
  simp [namesAre]

theorem Remembers.assignment (remembers : Remembers rootObject declared seen) (left right : Json) :
    Remembers rootObject declared (seen ++ [Node.assignmentStatement left right]) := by
  rcases remembers with ⟨names, rfl, namesAre⟩
  refine ⟨names, rfl, ?_⟩
  intro name
  have differs : Layout.constant rootObject name ≠ Node.assignmentStatement left right := by
    intro same
    have sameKind := congrArg Node.isConstant same
    simp at sameKind
  simp [namesAre, differs]

theorem Remembers.known (remembers : Remembers rootObject declared seen) {name : String}
    (isSeen : Layout.constant rootObject name ∈ seen) :
    Remembers rootObject declared (seen ++ [Layout.constant rootObject name]) := by
  rcases remembers with ⟨names, rfl, namesAre⟩
  refine ⟨names, rfl, ?_⟩
  intro other
  rw [namesAre, List.mem_append, List.mem_singleton]
  constructor
  · exact .inl
  · rintro (isOther | same)
    · exact isOther
    · rw [same]
      exact isSeen

theorem Remembers.new (remembers : Remembers rootObject declared seen) (name : String) :
    Remembers rootObject (declared ++ [.str name])
      (seen ++ [Layout.constant rootObject name]) := by
  rcases remembers with ⟨names, rfl, namesAre⟩
  refine ⟨names ++ [name], by simp, ?_⟩
  intro other
  simp [namesAre, constant_injective.eq_iff]

/-- Dropping by name drops the constants that are equal to one seen before. -/
theorem dropRepeated_outcome (label : String) {statements : List Json}
    (generated : ∀ statement ∈ statements, Layout.IsGenerated rootObject statement)
    (remembers : Remembers rootObject declared seen) :
    ∃ later, (dropRepeated label declared statements).outcome =
        .ok (keepFirst seen statements, later) ∧
      Remembers rootObject later (seen ++ statements) := by
  induction statements generalizing declared seen with
  | nil => exact ⟨declared, rfl, by simpa using remembers⟩
  | cons head rest ih =>
      rcases List.forall_mem_cons.mp generated with ⟨headGenerated, restGenerated⟩
      simp only [dropRepeated, Traced.outcome_bind, Traced.outcome_liftM]
      rcases headGenerated with ⟨name, rfl⟩ | ⟨left, right, rfl⟩
      · by_cases isSeen : Layout.constant rootObject name ∈ seen
        · rcases ih restGenerated (remembers.known isSeen) with ⟨later, drops, remembersLater⟩
          refine ⟨later, ?_, by simpa using remembersLater⟩
          simp [ok_bind, remembers.isDeclared_eq, isSeen, drops, keepFirst]
        · rcases ih restGenerated (remembers.new name) with ⟨later, drops, remembersLater⟩
          refine ⟨later, ?_, by simpa using remembersLater⟩
          simp [ok_bind, remembers.isDeclared_eq, isSeen, drops, keepFirst]
      · rcases ih restGenerated (remembers.assignment left right) with
          ⟨later, drops, remembersLater⟩
        refine ⟨later, ?_, by simpa using remembersLater⟩
        simp [ok_bind, drops, keepFirst]

/-- Runs that take their constants from one global object are merged without a failure. -/
theorem mergeFrom_outcome {runs : List (String × List Json)}
    (generated : ∀ run ∈ runs, ∀ statement ∈ run.2, Layout.IsGenerated rootObject statement)
    (remembers : Remembers rootObject declared seen) :
    (mergeFrom declared runs).outcome = .ok (keepFirst seen (runs.flatMap Prod.snd)) := by
  induction runs generalizing declared seen with
  | nil => rfl
  | cons run runs ih =>
      rcases run with ⟨label, statements⟩
      rcases List.forall_mem_cons.mp generated with ⟨runGenerated, runsGenerated⟩
      rcases dropRepeated_outcome label runGenerated remembers with ⟨later, drops, remembersLater⟩
      simp only [mergeFrom, Traced.outcome_bind, drops, ok_bind, ih runsGenerated remembersLater,
        Traced.outcome_pure, List.flatMap_cons, keepFirst_append]

end

/-! ## Merging conversions -/

theorem exists_parameters_of_mem {options : Options} {names : List String} {nodes : List Json}
    {conversions : List Conversion}
    (converts : (convertCalls options names nodes).outcome = .ok conversions) :
    ∀ conversion ∈ conversions,
      ∃ parameters, (Conversion.ofParameters options parameters).outcome = .ok conversion := by
  induction nodes generalizing conversions with
  | nil =>
      obtain rfl : [] = conversions := by simpa [convertCalls] using converts
      simp
  | cons node rest ih =>
      simp only [convertCalls, Traced.outcome_bind, Traced.outcome_liftM] at converts
      rcases bind_eq_ok_iff.mp converts with ⟨isCall, _, converts⟩
      split at converts
      · simp only [Traced.outcome_bind, Traced.outcome_liftM, Traced.outcome_pure,
          bind_eq_ok_iff, Except.ok.injEq] at converts
        rcases converts with ⟨parameters, _, first, convertsFirst, others, convertsRest, rfl⟩
        exact List.forall_mem_cons.mpr ⟨⟨parameters, convertsFirst⟩, ih convertsRest⟩
      · exact ih converts

section

variable {options : Options} {conversions : List Conversion}
  (converted : ∀ conversion ∈ conversions,
    ∃ parameters, (Conversion.ofParameters options parameters).outcome = .ok conversion)
include converted

theorem isGenerated_of_mem_statements {conversion : Conversion}
    (conversionMem : conversion ∈ conversions) {statement : Json}
    (statementMem : statement ∈ conversion.statements) :
    Layout.IsGenerated options.rootObject statement := by
  rcases converted conversion conversionMem with ⟨parameters, converts⟩
  exact Conversion.isGenerated_of_mem converts statementMem

theorem merge_outcome :
    (merge (conversions.map fun conversion =>
        (conversion.namespaceText, conversion.statements))).outcome =
      .ok (withoutRepeats (conversions.flatMap (·.statements))) := by
  have remembersNothing : Remembers options.rootObject [] [] := ⟨[], rfl, by simp⟩
  rw [merge, mergeFrom_outcome _ remembersNothing, withoutRepeats_eq, List.flatMap_map]
  intro run runMem statement statementMem
  rcases List.mem_map.mp runMem with ⟨conversion, conversionMem, rfl⟩
  exact isGenerated_of_mem_statements converted conversionMem statementMem

theorem nodup_constantName?_merged :
    ((withoutRepeats (conversions.flatMap (·.statements))).filterMap
      Node.constantName?).Nodup := by
  rw [withoutRepeats_eq]
  apply nodup_constantName?_keepFirst
  intro statement statementMem
  rcases List.mem_flatMap.mp statementMem with ⟨conversion, conversionMem, statementMem⟩
  exact isGenerated_of_mem_statements converted conversionMem statementMem

/-- A path in a merged program comes after the constant it starts from. -/
theorem exists_opening_of_mem_pathsAt {earlier later : List Conversion} {conversion : Conversion}
    (conversionsAre : conversions = earlier ++ conversion :: later)
    {before after : List Json} {statement expression : Json}
    (statementsAre : conversion.statements = before ++ statement :: after)
    (isPath : expression ∈ conversion.pathsAt before.length) :
    ∃ opening closing base,
      withoutRepeats (conversions.flatMap (·.statements)) = opening ++ statement :: closing ∧
        opening = withoutRepeats (earlier.flatMap (·.statements) ++ before) ∧
        Node.baseName? expression = some base ∧
        (base ≠ options.rootObject → Layout.constant options.rootObject base ∈ opening) := by
  rcases converted conversion (by simp [conversionsAre]) with ⟨parameters, converts⟩
  rcases Conversion.isAssignment_of_mem_pathsAt converts statementsAre isPath with
    ⟨left, right, statementIs⟩
  have notConstant : Node.isConstant statement = false := by
    rw [statementIs]
    rfl
  have allAre : conversions.flatMap (·.statements) =
      earlier.flatMap (·.statements) ++ before ++
        statement :: (after ++ later.flatMap (·.statements)) := by
    simp [conversionsAre, statementsAre]
  rcases withoutRepeats_append_cons notConstant (earlier.flatMap (·.statements) ++ before)
    (after ++ later.flatMap (·.statements)) with ⟨closing, splits⟩
  rcases Conversion.startsFromDeclared_of_mem_pathsAt converts statementsAre isPath with
    ⟨base, baseIs, isDeclared⟩
  refine ⟨_, closing, base, by rw [allAre, splits], rfl, baseIs, ?_⟩
  intro notGlobal
  rw [mem_withoutRepeats, List.mem_append]
  exact .inr (isDeclared.resolve_left notGlobal)

end

/-- A program is converted exactly if its calls are: merging them cannot fail. -/
theorem convert_outcome (options : Options) (callee : String) (program : Json) :
    (convert options callee program).outcome =
      (convertCalls options (Text.pieces '.' callee) program.walk).outcome.map fun conversions =>
        ⟨Node.program (.arr (withoutRepeats (conversions.flatMap (·.statements)))),
          conversions⟩ := by
  cases converts : (convertCalls options (Text.pieces '.' callee) program.walk).outcome with
  | error failure => simp [convert, converts, error_bind, Except.map]
  | ok conversions =>
      have merges := merge_outcome (exists_parameters_of_mem converts)
      simp only [convert, Traced.outcome_bind, converts, ok_bind]
      split
      · simp [merges, ok_bind, Except.map]
      · simp [merges, ok_bind, Except.map]

/-- How the body of a merged program comes from the conversions it was merged from. -/
structure IsMerged (rootObject : String) (conversions : List Conversion) (body : List Json) :
    Prop where
  bodyIs : body = withoutRepeats (conversions.flatMap (·.statements))
  namesDistinct : (body.filterMap Node.constantName?).Nodup
  declaredBefore : ∀ earlier conversion later, conversions = earlier ++ conversion :: later →
    ∀ before statement after, conversion.statements = before ++ statement :: after →
      ∀ expression ∈ conversion.pathsAt before.length,
        ∃ opening closing base, body = opening ++ statement :: closing ∧
          opening = withoutRepeats (earlier.flatMap (·.statements) ++ before) ∧
          Node.baseName? expression = some base ∧
          (base ≠ rootObject → Layout.constant rootObject base ∈ opening)

/--
The body of a converted program is made of the statements of all conversions in
order, without those constants that are equal to an earlier one. Each name is
declared once, and before every path that starts from it.
-/
theorem convert_isMerged {options : Options} {callee : String} {program : Json}
    {converted : Converted} (converts : (convert options callee program).outcome = .ok converted) :
    ∃ body, converted.program = Node.program (.arr body) ∧
      IsMerged options.rootObject converted.conversions body := by
  rw [convert_outcome] at converts
  cases finds : (convertCalls options (Text.pieces '.' callee) program.walk).outcome with
  | error failure => simp [finds, Except.map] at converts
  | ok conversions =>
      obtain rfl : _ = converted := by simpa [finds, Except.map] using converts
      have areConverted := exists_parameters_of_mem finds
      refine ⟨_, rfl, rfl, nodup_constantName?_merged areConverted, ?_⟩
      intro earlier conversion later conversionsAre before statement after statementsAre
        expression isPath
      exact exists_opening_of_mem_pathsAt areConverted conversionsAre statementsAre isPath

/-- A program with two calls whose classes live under one root and extend the same class. -/
def sampleProgram : Json :=
  let callee := Node.dot (Node.identifier (.str "$")) (.str "Class")
  let call (arguments : Json) : Json :=
    Node.expressionStatement
      (Node.ofType "CallExpression" [("callee", callee), ("arguments", arguments)])
  let other := Json.arr [Node.literal (.str "app.Menu"),
    Node.ofType "ObjectExpression" [("properties", .arr [])]]
  Node.program (.arr [call Conversion.sampleCall, call other])

def sampleOptions : Options :=
  { Options.default with extended := true, extendedNamespace := some "lib.Base" }

theorem convert_isMerged_sampleProgram :
    ∃ converted, (convert sampleOptions "$.Class" sampleProgram).outcome = .ok converted ∧
      converted.conversions.map (·.statements.length) = [6, 4] ∧
      ∃ body, converted.program = Node.program (.arr body) ∧
        IsMerged "window" converted.conversions body := by
  obtain ⟨conversions, finds, lengthsAre⟩ : ∃ conversions,
      (convertCalls sampleOptions (Text.pieces '.' "$.Class") sampleProgram.nodes).outcome =
          .ok conversions ∧
        conversions.map (·.statements.length) = [6, 4] :=
    ⟨_, rfl, rfl⟩
  have converts := convert_outcome sampleOptions "$.Class" sampleProgram
  rw [Json.walk_eq_nodes, finds] at converts
  exact ⟨_, converts, lengthsAre, convert_isMerged converts⟩

end Program

end ClassLift

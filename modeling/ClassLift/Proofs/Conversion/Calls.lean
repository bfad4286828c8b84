import ClassLift.Proofs.Conversion.Members
import ClassLift.Proofs.Conversion.Paths
import ClassLift.Proofs.Tree.Parts

/-!
# The calls in a converted program

The nodes of a converted program are generated or copied. Only one kind of
generated node is a call, the one that hands arguments to the superclass, and the
copied parts are parts of the arguments. In between stands the block of a
constructor taken from a table: it is copied, but data may be added to its
statements. So what holds of the calls in the arguments, of the generated call
and of such a block holds of all calls in the program.
-/

namespace ClassLift

namespace Node

/-- Every call in a tree, at any depth, is an allowed one. -/
def EveryCall (allowed : Json → Prop) (tree : Json) : Prop :=
  ∀ node ∈ tree.nodes, hasType "CallExpression" node = true → allowed node

/-- The generated call `super(...args)`. -/
def superCall : Json :=
  ofType "CallExpression"
    [("callee", ofType "Super" []),
     ("arguments", .arr [ofType "SpreadElement" [("argument", identifier (.str "args"))]]),
     ("optional", .bool false)]

section EveryCall

variable {allowed : Json → Prop} {tree : Json}

theorem EveryCall.part {part : Json} (every : EveryCall allowed tree)
    (isPart : part ∈ tree.parts) : EveryCall allowed part := by
  intro node isNode
  exact every node (Json.mem_nodes_of_mem_parts isPart isNode)

theorem everyCall_of_parts (own : hasType "CallExpression" tree = true → allowed tree)
    (inside : ∀ part ∈ tree.parts, EveryCall allowed part) : EveryCall allowed tree := by
  intro node isNode isCall
  rcases Json.mem_nodes_iff.mp isNode with ⟨rfl, _⟩ | ⟨part, isPart, isInside⟩
  · exact own isCall
  · exact inside part isPart node isInside isCall

@[simp]
theorem everyCall_null : EveryCall allowed .null := by
  simp [EveryCall, Json.nodes]

@[simp]
theorem everyCall_bool (value : Bool) : EveryCall allowed (.bool value) := by
  simp [EveryCall, Json.nodes]

@[simp]
theorem everyCall_str (text : String) : EveryCall allowed (.str text) := by
  simp [EveryCall, Json.nodes]

@[simp]
theorem everyCall_arr {items : List Json} :
    EveryCall allowed (.arr items) ↔ ∀ item ∈ items, EveryCall allowed item := by
  constructor
  · intro every item isItem
    exact every.part isItem
  · intro each
    exact everyCall_of_parts (by simp [hasType, Json.field?]) each

@[simp]
theorem everyCall_ofType {type : String} (notCall : type ≠ "CallExpression")
    {fields : List (String × Json)} :
    EveryCall allowed (ofType type fields) ↔ ∀ field ∈ fields, EveryCall allowed field.2 := by
  have partsAre : (ofType type fields).parts = .str type :: fields.map Prod.snd := rfl
  constructor
  · intro every field isField
    apply every.part
    rw [partsAre]
    exact List.mem_cons_of_mem _ (List.mem_map_of_mem isField)
  · intro each
    apply everyCall_of_parts
    · intro isCall
      simp [hasType, ofType, Json.field?, Json.isStr, notCall] at isCall
    · rw [partsAre, List.forall_mem_cons, List.forall_mem_map]
      exact ⟨everyCall_str type, each⟩

theorem EveryCall.field (every : EveryCall allowed tree) (key : String) :
    EveryCall allowed ((tree.field? key).getD .null) := by
  cases found : tree.field? key with
  | none => simp
  | some value => exact every.part (Json.mem_parts_of_field? found)

theorem EveryCall.orElse {fallback : Json} (every : EveryCall allowed tree)
    (fallbackToo : EveryCall allowed fallback) : EveryCall allowed (orElse fallback tree) := by
  cases tree with
  | null => exact fallbackToo
  | bool | int | float | str | arr | obj => exact every

/-! ## Generated nodes -/

theorem everyCall_chain (every : EveryCall allowed tree) (names : List String) :
    EveryCall allowed (Scope.chain tree names) := by
  induction names generalizing tree with
  | nil => exact every
  | cons name rest ih =>
      have accessed : EveryCall allowed (dot tree (.str name)) := by
        simp [dot, member, identifier, every]
      exact ih accessed

theorem everyCall_access (rootObject : String) (segments : List String) :
    EveryCall allowed (Scope.access rootObject segments) := by
  unfold Scope.access
  split
  · exact everyCall_chain (by simp [identifier]) _
  · exact everyCall_chain (by simp [identifier]) _

theorem everyCall_assignmentStatement {left right : Json} (leftEvery : EveryCall allowed left)
    (rightEvery : EveryCall allowed right) :
    EveryCall allowed (assignmentStatement left right) := by
  simp [assignmentStatement, expressionStatement, assignment, leftEvery, rightEvery]

theorem everyCall_superclass (rootObject : String) (segments? : Option (List String)) :
    EveryCall allowed (Layout.superclass rootObject segments?) := by
  cases segments? with
  | none => exact everyCall_null
  | some segments => exact everyCall_access rootObject segments

theorem everyCall_opening {options : Options} {segments : List String} {statement : Json}
    (isOpening : statement ∈ Layout.opening options segments) : EveryCall allowed statement := by
  rcases Layout.mem_opening isOpening with ⟨names, rfl⟩ | ⟨name, rfl⟩
  · have container : EveryCall allowed
        (Scope.chain (identifier (.str options.rootObject)) names) :=
      everyCall_chain (by simp [identifier]) names
    apply everyCall_assignmentStatement container
    simp [logicalOr, emptyObject, container]
  · simp [Layout.constant, constDeclaration, dot, member, identifier]

theorem everyCall_copiedFunction (every : EveryCall allowed tree) :
    EveryCall allowed (copiedFunction tree) := by
  have params : EveryCall allowed (orElse (.arr []) ((tree.field? "params").getD .null)) :=
    (every.field "params").orElse (by simp)
  have body : EveryCall allowed (orElse (block .null) ((tree.field? "body").getD .null)) :=
    (every.field "body").orElse (by simp [block, Node.orElse])
  simp [copiedFunction, functionExpression, params, body, every.field "id"]

/-! ## Constructors with data -/

theorem hasType_block (body : Json) : hasType "CallExpression" (block body) = false :=
  rfl

/-- The block of a copied function is the one of the given function, if it is a call. -/
theorem field?_body_of_isCall {function body : Json}
    (bodyIs : (copiedFunction function).field? "body" = some body)
    (isCall : hasType "CallExpression" body = true) : function.field? "body" = some body := by
  have bodyIs : orElse (block .null) ((function.field? "body").getD .null) = body :=
    Option.some.inj bodyIs
  cases found : function.field? "body" with
  | none =>
      rw [← bodyIs, found, Option.getD_none, Node.orElse, hasType_block] at isCall
      simp at isCall
  | some given =>
      rw [found, Option.getD_some] at bodyIs
      cases given with
      | null =>
          rw [← bodyIs, Node.orElse, hasType_block] at isCall
          simp at isCall
      | bool | int | float | str | arr | obj => exact congrArg some bodyIs

theorem hasType_update {type key : String} (notType : key ≠ "type") (change : Json → Json) :
    hasType type (tree.update key change) = hasType type tree := by
  rw [hasType, hasType, Json.field?_update_of_ne (Ne.symm notType)]

theorem mem_parts_update {key : String} {change : Json → Json} {part : Json}
    (isPart : part ∈ (tree.update key change).parts) :
    part ∈ tree.parts ∨ ∃ old, tree.field? key = some old ∧ part = change old := by
  cases tree with
  | obj fields =>
      simp only [Json.update, Json.parts, Json.fieldValues] at isPart ⊢
      induction fields with
      | nil => simp [Json.updateFields] at isPart
      | cons field rest ih =>
          rcases field with ⟨otherKey, value⟩
          by_cases same : otherKey = key
          · simp only [Json.updateFields, same, if_true, List.map_cons, List.mem_cons] at isPart
            rcases isPart with rfl | isLater
            · exact .inr ⟨value, by simp [Json.field?, same], rfl⟩
            · exact .inl (List.mem_cons_of_mem _ isLater)
          · have differs : (key == otherKey) = false := by simpa using Ne.symm same
            simp only [Json.updateFields, same, if_false, List.map_cons, List.mem_cons] at isPart
            rcases isPart with rfl | isLater
            · exact .inl List.mem_cons_self
            · rcases ih isLater with isOld | ⟨old, found, partIs⟩
              · exact .inl (List.mem_cons_of_mem _ isOld)
              · refine .inr ⟨old, ?_, partIs⟩
                simpa [Json.field?, List.lookup_cons, differs] using found
  | null | bool | int | float | str | arr => exact .inl isPart

theorem EveryCall.update {key : String} {change : Json → Json} (every : EveryCall allowed tree)
    (notType : key ≠ "type")
    (own : hasType "CallExpression" tree = true → allowed (tree.update key change))
    (changed : ∀ old, tree.field? key = some old → EveryCall allowed (change old)) :
    EveryCall allowed (tree.update key change) := by
  apply everyCall_of_parts
  · rwa [hasType_update notType]
  · intro part isPart
    rcases mem_parts_update isPart with isOld | ⟨old, found, rfl⟩
    · exact every.part isOld
    · exact changed old found

/--
Adding statements to a constructor leaves every call allowed, if the added ones
have allowed calls and the block they are added to is allowed where it is a call.
-/
theorem everyCall_appendStatements {function : Json} {added : List Json}
    (isFunction : hasType "FunctionExpression" function = true)
    (every : EveryCall allowed function)
    (addedEvery : ∀ statement ∈ added, EveryCall allowed statement)
    (blockAllowed : ∀ block, function.field? "body" = some block →
      hasType "CallExpression" block = true →
        ∀ statements, allowed (block.update "body" fun _ => .arr statements)) :
    EveryCall allowed (appendStatements (classConstructor function) added) := by
  have notCall : hasType "CallExpression" function = false := by
    simp only [hasType, Option.any_eq_true, Json.isStr_iff] at isFunction
    rcases isFunction with ⟨type, typeIs, rfl⟩
    simp [hasType, typeIs, Json.isStr]
  have constructorEvery : EveryCall allowed (classConstructor function) := by
    simp [classConstructor, methodDefinition, identifier, every]
  unfold appendStatements
  split
  · rename_i statements read
    rcases constructorStatements_eq_ok_iff.mp read with
      ⟨found, block, functionRead, blockRead, statementsRead⟩
    obtain rfl : function = found := Option.some.inj functionRead
    have blockEvery := every.part (Json.mem_parts_of_field? blockRead)
    have statementsEvery := blockEvery.part (Json.mem_parts_of_field? statementsRead)
    apply constructorEvery.update (by decide)
    · intro isCall
      simp [classConstructor, methodDefinition, hasType, ofType, Json.field?, Json.isStr] at isCall
    intro old oldRead
    obtain rfl : function = old := Option.some.inj oldRead
    apply every.update (by decide)
    · simp [notCall]
    intro old oldRead
    obtain rfl : block = old := by simpa [blockRead] using oldRead
    apply blockEvery.update (by decide)
    · intro isCall
      exact blockAllowed block blockRead isCall _
    intro _ _
    rw [everyCall_arr] at statementsEvery ⊢
    intro statement isStatement
    rcases List.mem_append.mp isStatement with isOwn | isAdded
    · exact statementsEvery statement isOwn
    · exact addedEvery statement isAdded
  · exact constructorEvery

end EveryCall

end Node

/-! ## Entries of tables -/

/-- An entry whose key and value have only allowed calls. -/
structure MemberEntry.EveryCall (allowed : Json → Prop) (entry : MemberEntry) : Prop where
  key : Node.EveryCall allowed entry.key
  value : Node.EveryCall allowed entry.value

section Entries

open Node

variable {allowed : Json → Prop} {entry : MemberEntry}

theorem MemberTable.everyCall_of_mem_keptEntries {table : Json}
    (every : Node.EveryCall allowed table) (isEntry : entry ∈ keptEntries table) :
    entry.EveryCall allowed := by
  rcases List.mem_map.mp isEntry with ⟨property, isKept, rfl⟩
  have isListed := (List.mem_filter.mp isKept).1
  unfold listed at isListed
  split at isListed
  · rename_i properties _ listIs
    have listEvery := every.part (Json.mem_parts_of_field? listIs)
    have propertyEvery := everyCall_arr.mp listEvery property isListed
    exact ⟨propertyEvery.field "key", propertyEvery.field "value"⟩
  · simp at isListed

namespace MemberEntry.EveryCall

variable (every : entry.EveryCall allowed)
include every

theorem toMethod (isStatic : Bool) : Node.EveryCall allowed (entry.toMethod isStatic) := by
  have kind : Node.EveryCall allowed entry.methodKind := by
    unfold methodKind
    split
    · rename_i isAccessor
      rw [MemberEntry.isAccessor, Bool.or_eq_true, Json.isStr_iff, Json.isStr_iff] at isAccessor
      rcases isAccessor with kindIs | kindIs
      · rw [kindIs]
        exact everyCall_str _
      · rw [kindIs]
        exact everyCall_str _
    · exact everyCall_str _
  simp [MemberEntry.toMethod, methodDefinition, every.key, kind,
    everyCall_copiedFunction every.value]

theorem toField : Node.EveryCall allowed entry.toField := by
  simp [MemberEntry.toField, propertyDefinition, every.key, every.value]

theorem assignedTo {object : Json} (objectEvery : Node.EveryCall allowed object) :
    Node.EveryCall allowed (entry.assignedTo object) := by
  apply everyCall_assignmentStatement _ every.value
  simp [member, every.key, objectEvery]

end MemberEntry.EveryCall

theorem everyCall_superCallStatement (superAllowed : allowed superCall) :
    Node.EveryCall allowed (superCallStatement (.str "args")) := by
  have partsAre : superCall.parts =
      [.str "CallExpression", ofType "Super" [],
        .arr [ofType "SpreadElement" [("argument", identifier (.str "args"))]], .bool false] := rfl
  have callEvery : Node.EveryCall allowed superCall := by
    apply everyCall_of_parts fun _ => superAllowed
    rw [partsAre]
    simp [identifier]
  rw [show superCallStatement (.str "args") = expressionStatement superCall from rfl]
  simp [expressionStatement, callEvery]

theorem emptyFunction_eq :
    emptyFunction = ofType "FunctionExpression"
      [("id", .null), ("generator", .bool false), ("expression", .bool false),
        ("async", .bool false), ("params", .arr []),
        ("body", ofType "BlockStatement" [("body", .arr [])])] :=
  rfl

theorem forwardingFunction_eq :
    forwardingFunction = ofType "FunctionExpression"
      [("id", .null), ("generator", .bool false), ("expression", .bool false),
        ("async", .bool false), ("params", .arr [restElement (.str "args")]),
        ("body", ofType "BlockStatement"
          [("body", .arr [superCallStatement (.str "args")])])] :=
  rfl

theorem everyCall_synthesisedConstructor (superAllowed : allowed superCall) (derived : Bool)
    {added : List Json} (addedEvery : ∀ statement ∈ added, Node.EveryCall allowed statement) :
    Node.EveryCall allowed (appendStatements (synthesisedConstructor derived) added) := by
  have superEvery := everyCall_superCallStatement superAllowed
  cases derived with
  | false =>
      apply everyCall_appendStatements (by rfl) _ addedEvery
      · rintro _ ⟨⟩ isCall
        exact absurd isCall (by decide)
      · rw [emptyFunction_eq]
        simp
  | true =>
      apply everyCall_appendStatements (by rfl) _ addedEvery
      · rintro _ ⟨⟩ isCall
        exact absurd isCall (by decide)
      · rw [forwardingFunction_eq]
        simp [restElement, identifier, superEvery]

end Entries

/-! ## Whole conversions -/

namespace Conversion

/--
Whether the blocks that data may be added to are allowed: those of the functions
in the tables of a call, in so far as they are calls themselves.
-/
def AllowsBlocks (allowed : Json → Prop) (parameters : Json) : Prop :=
  ∀ table ∈ parameters.parts, ∀ entry ∈ MemberTable.keptEntries table, entry.hasFunction = true →
    ∀ block, entry.value.field? "body" = some block → Node.hasType "CallExpression" block = true →
      ∀ statements, allowed (block.update "body" fun _ => .arr statements)

section

variable {allowed : Json → Prop} {options : Options} {parameters : Json}
  (superAllowed : allowed Node.superCall) (inArguments : Node.EveryCall allowed parameters)
  (inBlocks : AllowsBlocks allowed parameters)

theorem Stages.everyCall_entry (stages : Stages options parameters)
    (inArguments : Node.EveryCall allowed parameters) {entry : MemberEntry}
    (isEntry : entry ∈ stages.arguments.staticEntries ∨ entry ∈ stages.arguments.memberEntries) :
    entry.EveryCall allowed := by
  rw [stages.parameters_eq.1, Node.everyCall_arr] at inArguments
  rcases isEntry with isStatic | isMember
  · unfold Arguments.staticEntries at isStatic
    cases staticsAre : stages.arguments.statics with
    | none => simp [staticsAre] at isStatic
    | some table =>
        rw [staticsAre] at isStatic inArguments
        exact MemberTable.everyCall_of_mem_keptEntries (inArguments table (by simp)) isStatic
  · have isTable := inArguments stages.arguments.members (by simp)
    exact MemberTable.everyCall_of_mem_keptEntries isTable isMember

include superAllowed inArguments inBlocks

theorem Stages.everyCall_constructor (stages : Stages options parameters) {node : Json}
    (bareIs : stages.arguments.bareConstructor options = some node) {added : List Json}
    (addedEvery : ∀ statement ∈ added, Node.EveryCall allowed statement) :
    Node.EveryCall allowed (Node.appendStatements node added) := by
  unfold Arguments.bareConstructor at bareIs
  split at bareIs
  · rename_i entry isTaken
    obtain rfl := Option.some.inj bareIs
    have isEntry := List.mem_of_find?_eq_some isTaken
    have isNamed := List.find?_some isTaken
    have hasFunction : entry.hasFunction = true := by
      simp only [MemberEntry.isConstructorNamed, Bool.and_eq_true] at isNamed
      exact isNamed.1.2
    have entryEvery := stages.everyCall_entry inArguments (.inr isEntry)
    apply Node.everyCall_appendStatements (by rfl)
      (Node.everyCall_copiedFunction entryEvery.value) addedEvery
    intro block blockIs isCall
    have partsAre : parameters.parts = _ := congrArg Json.parts stages.parameters_eq.1
    have isMembers : stages.arguments.members ∈ parameters.parts := by
      rw [partsAre]
      simp [Json.parts]
    exact inBlocks _ isMembers entry isEntry hasFunction block
      (Node.field?_body_of_isCall blockIs isCall) isCall
  · split at bareIs
    · simp at bareIs
    · obtain rfl := Option.some.inj bareIs
      exact everyCall_synthesisedConstructor superAllowed _ addedEvery

theorem Stages.everyCall_body (stages : Stages options parameters) {result : InstanceMembers}
    (adds : stages.addition.members.outcome = .ok result) :
    ∀ member ∈ stages.addition.body, Node.EveryCall allowed member := by
  have dataEvery : ∀ entry ∈ stages.arguments.dataEntries, entry.EveryCall allowed := by
    intro entry isData
    exact stages.everyCall_entry inArguments (.inr (List.mem_filter.mp isData).1)
  intro member isMember
  rw [(stages.addition_body_eq adds).1] at isMember
  simp only [List.mem_append, List.mem_map, Option.mem_toList, Option.map_eq_some_iff] at isMember
  rcases isMember with ((⟨entry, isStatic, rfl⟩ | isField) | ⟨node, bareIs, rfl⟩) |
    ⟨entry, isMethod, rfl⟩
  · exact (stages.everyCall_entry inArguments (.inl (List.mem_filter.mp isStatic).1)).toMethod true
  · unfold Placement.declaredFields at isField
    split at isField
    · simp at isField
    · rcases List.mem_map.mp isField with ⟨entry, isData, rfl⟩
      exact (dataEvery entry isData).toField
  · rw [initialised_eq]
    apply stages.everyCall_constructor superAllowed inArguments inBlocks bareIs
    intro statement isInitialiser
    unfold Arguments.initialisers at isInitialiser
    split at isInitialiser
    · rcases List.mem_map.mp isInitialiser with ⟨entry, isData, rfl⟩
      exact (dataEvery entry isData).assignedTo (by simp [Node.thisExpression])
    · simp at isInitialiser
  · have isEntry := List.mem_of_mem_eraseP (List.mem_filter.mp isMethod).1
    exact (stages.everyCall_entry inArguments (.inr isEntry)).toMethod false

/-- The calls in the statements of a conversion are allowed if those in its arguments are. -/
theorem everyCall_of_mem_statements {conversion : Conversion}
    (converts : (ofParameters options parameters).outcome = .ok conversion) {statement : Json}
    (isStatement : statement ∈ conversion.statements) : Node.EveryCall allowed statement := by
  rcases exists_stages converts with ⟨stages, _, adds, rfl⟩
  have entryEvery : ∀ entry, entry ∈ stages.arguments.staticEntries ∨
      entry ∈ stages.arguments.memberEntries → entry.EveryCall allowed :=
    fun entry isEntry => stages.everyCall_entry inArguments isEntry
  rw [Stages.conversion, stages.opening_eq, stages.classStatement_eq, stages.trailing_eq,
    (stages.addition_body_eq adds).1] at isStatement
  simp only [List.mem_append, List.mem_singleton] at isStatement
  rcases isStatement with (isOpening | rfl) | isTrailing
  · exact Node.everyCall_opening isOpening
  · have bodyEvery := stages.everyCall_body superAllowed inArguments inBlocks adds
    rw [(stages.addition_body_eq adds).1] at bodyEvery
    refine Node.everyCall_assignmentStatement (Node.everyCall_access _ _) ?_
    simpa [Node.classWith, Node.identifier, Node.everyCall_superclass] using bodyEvery
  · rcases List.mem_map.mp isTrailing with ⟨entry, isData, rfl⟩
    exact (entryEvery entry (.inl (List.mem_filter.mp isData).1)).assignedTo
      (Node.everyCall_access _ _)

end

end Conversion

end ClassLift

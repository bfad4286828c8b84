import ClassLift.Proofs.Callee
import ClassLift.Proofs.Tree.Paths

/-!
# Names and scopes in a program

Functions, classes, blocks, loops, switches and handlers of exceptions bind names
for some of their parts: `Node.introduced` gives the names that a node binds for the
part at a key. An identifier is a reference unless it only names a member, a label
or what is being defined. It is free at a place of a tree if nothing on the way
to that place binds its name.

The rules are those of strict code, where a function declared in a block belongs
to the block.
-/

namespace ClassLift.Node

/-! ## Names that are declared -/

/-- Whether a node is of one of the given types and the key is the one listed for that type. -/
def isStepOf (steps : List (String × String)) (node : Json) (key : String) : Bool :=
  steps.any fun (type, part) => hasType type node && part = key

mutual

/-- The objects that one gets to from a tree by the listed steps, itself included. -/
def reached (steps : List (String × String)) : Json → List Json
  | .arr items => reachedItems steps items
  | .obj fields => .obj fields :: reachedFields steps (.obj fields) fields
  | _ => []

def reachedItems (steps : List (String × String)) : List Json → List Json
  | [] => []
  | item :: rest => reached steps item ++ reachedItems steps rest

def reachedFields (steps : List (String × String)) (node : Json) :
    List (String × Json) → List Json
  | [] => []
  | (key, value) :: rest =>
      (if isStepOf steps node key then reached steps value else []) ++
        reachedFields steps node rest

end

/-- From a pattern to the parts of it that bind names. -/
def patternSteps : List (String × String) :=
  [("ObjectPattern", "properties"), ("Property", "value"), ("ArrayPattern", "elements"),
    ("RestElement", "argument"), ("AssignmentPattern", "left")]

/-- From a declaration of variables to what it declares. -/
def declarationSteps : List (String × String) :=
  [("VariableDeclaration", "declarations"), ("VariableDeclarator", "id")]

/-- From a statement to the statements inside it that belong to the same function. -/
def statementSteps : List (String × String) :=
  [("BlockStatement", "body"), ("LabeledStatement", "body"), ("WithStatement", "body"),
    ("IfStatement", "consequent"), ("IfStatement", "alternate"), ("WhileStatement", "body"),
    ("DoWhileStatement", "body"), ("ForStatement", "init"), ("ForStatement", "body"),
    ("ForInStatement", "left"), ("ForInStatement", "body"), ("ForOfStatement", "left"),
    ("ForOfStatement", "body"), ("SwitchStatement", "cases"), ("SwitchCase", "consequent"),
    ("TryStatement", "block"), ("TryStatement", "handler"), ("TryStatement", "finalizer"),
    ("CatchClause", "body")]

/-- From a statement to the statements that declare names for the same block. -/
def siblingSteps : List (String × String) :=
  [("LabeledStatement", "body"), ("SwitchCase", "consequent")]

/-- The name of an identifier. -/
def name? (node : Json) : Option String :=
  match hasType "Identifier" node, node.field? "name" with
  | true, some (.str name) => some name
  | _, _ => none

/-- The names that a pattern, or a list of them, binds. -/
def patternNames (pattern : Json) : List String :=
  (reached patternSteps pattern).filterMap name?

/-- The name that a function or a class has of its own. -/
def ownNames (node : Json) : List String :=
  patternNames (link "id" node)

def parameterNames (function : Json) : List String :=
  patternNames (link "params" function)

def declaredNames (declaration : Json) : List String :=
  (reached (declarationSteps ++ patternSteps) declaration).filterMap name?

/-- Whether a declaration is one for the whole function. -/
def isVar (node : Json) : Bool :=
  hasType "VariableDeclaration" node && (node.field? "kind").any (·.isStr "var")

/-- The names that statements declare for the function they are in. -/
def varNames (statements : Json) : List String :=
  ((reached statementSteps statements).filter isVar).flatMap declaredNames

/-- The names that a statement declares for the block it is in. -/
def blockNames (statement : Json) : List String :=
  if hasType "FunctionDeclaration" statement || hasType "ClassDeclaration" statement then
    ownNames statement
  else if hasType "VariableDeclaration" statement && !isVar statement then
    declaredNames statement
  else []

def lexicalNames (statements : Json) : List String :=
  (reached siblingSteps statements).flatMap blockNames

/-! ## Scopes -/

/-- The names that a node binds, each time with the keys of the parts that see them. -/
def scopes (node : Json) : List (List String × List String) :=
  if hasType "FunctionExpression" node || hasType "FunctionDeclaration" node then
    [(["params", "body"], "arguments" :: ownNames node ++ parameterNames node),
      (["body"], varNames (link "body" node))]
  else if hasType "ArrowFunctionExpression" node then
    [(["params", "body"], parameterNames node), (["body"], varNames (link "body" node))]
  else if hasType "ClassExpression" node || hasType "ClassDeclaration" node then
    [(["superClass", "body"], ownNames node)]
  else if hasType "BlockStatement" node then
    [(["body"], lexicalNames (link "body" node))]
  else if hasType "StaticBlock" node then
    [(["body"], lexicalNames (link "body" node) ++ varNames (link "body" node))]
  else if hasType "SwitchStatement" node then
    [(["cases"], lexicalNames (link "cases" node))]
  else if hasType "ForStatement" node then
    [(["init", "test", "update", "body"], lexicalNames (link "init" node))]
  else if hasType "ForInStatement" node || hasType "ForOfStatement" node then
    [(["left", "right", "body"], lexicalNames (link "left" node))]
  else if hasType "CatchClause" node then
    [(["param", "body"], patternNames (link "param" node))]
  else []

/-- The names that a node binds for the part at a key. -/
def introduced (node : Json) (key : String) : List String :=
  (scopes node).flatMap fun (keys, names) => if key ∈ keys then names else []

/-- The keys of the parts that see names bound by the node they belong to. -/
def scopedKeys : List String :=
  ["params", "body", "superClass", "cases", "init", "test", "update", "left", "right", "param"]

theorem keys_ite_subset {condition : Prop} [Decidable condition]
    {chosen other : List (List String × List String)}
    (chosenListed : chosen.flatMap Prod.fst ⊆ scopedKeys)
    (otherListed : other.flatMap Prod.fst ⊆ scopedKeys) :
    (if condition then chosen else other).flatMap Prod.fst ⊆ scopedKeys := by
  split
  · exact chosenListed
  · exact otherListed

theorem keys_scopes_subset (node : Json) : (scopes node).flatMap Prod.fst ⊆ scopedKeys := by
  unfold scopes
  -- One case for each kind of node with scopes: their keys do not depend on the names bound.
  apply keys_ite_subset ?function
  apply keys_ite_subset ?arrow
  apply keys_ite_subset ?classNode
  apply keys_ite_subset ?block
  apply keys_ite_subset ?staticBlock
  apply keys_ite_subset ?switch
  apply keys_ite_subset ?forLoop
  apply keys_ite_subset ?forEach
  apply keys_ite_subset ?handler
  · exact List.nil_subset scopedKeys
  case function | arrow => exact (by decide : ["params", "body", "body"] ⊆ scopedKeys)
  case classNode => exact (by decide : ["superClass", "body"] ⊆ scopedKeys)
  case block | staticBlock => exact (by decide : ["body"] ⊆ scopedKeys)
  case switch => exact (by decide : ["cases"] ⊆ scopedKeys)
  case forLoop => exact (by decide : ["init", "test", "update", "body"] ⊆ scopedKeys)
  case forEach => exact (by decide : ["left", "right", "body"] ⊆ scopedKeys)
  case handler => exact (by decide : ["param", "body"] ⊆ scopedKeys)

theorem introduced_eq_nil {key : String} (notScoped : key ∉ scopedKeys) (node : Json) :
    introduced node key = [] := by
  unfold introduced
  rw [List.flatMap_eq_nil_iff]
  rintro ⟨keys, names⟩ isScope
  have notSeen : key ∉ keys := by
    intro isSeen
    exact notScoped (keys_scopes_subset node (List.mem_flatMap.mpr ⟨_, isScope, isSeen⟩))
  exact if_neg notSeen

/-- Parts that hold a name which is no reference. -/
def namingSteps : List (String × String) :=
  [("FunctionExpression", "id"), ("FunctionDeclaration", "id"), ("ClassExpression", "id"),
    ("ClassDeclaration", "id"), ("LabeledStatement", "label"), ("BreakStatement", "label"),
    ("ContinueStatement", "label"), ("MetaProperty", "meta"), ("MetaProperty", "property")]

/-- Parts that hold a name which is no reference unless it is computed. -/
def memberSteps : List (String × String) :=
  [("MemberExpression", "property"), ("Property", "key"), ("MethodDefinition", "key"),
    ("PropertyDefinition", "key")]

def isNaming (node : Json) (key : String) : Bool :=
  isStepOf namingSteps node key ||
    isStepOf memberSteps node key && !(node.field? "computed").any (·.isTruthy)

def namingKeys : List String :=
  (namingSteps ++ memberSteps).map Prod.snd

theorem mem_of_isStepOf {steps : List (String × String)} {node : Json} {key : String}
    (isStep : isStepOf steps node key = true) : key ∈ steps.map Prod.snd := by
  rcases List.any_eq_true.mp isStep with ⟨⟨type, part⟩, isListed, applies⟩
  simp only [Bool.and_eq_true, decide_eq_true_eq] at applies
  exact List.mem_map.mpr ⟨(type, part), isListed, applies.2⟩

theorem not_isNaming {key : String} (isOther : key ∉ namingKeys) (node : Json) :
    isNaming node key = false := by
  rw [namingKeys, List.map_append, List.mem_append, not_or] at isOther
  have notNaming : isStepOf namingSteps node key = false := by
    rw [← Bool.not_eq_true]
    intro isStep
    exact isOther.1 (mem_of_isStepOf isStep)
  have notMember : isStepOf memberSteps node key = false := by
    rw [← Bool.not_eq_true]
    intro isStep
    exact isOther.2 (mem_of_isStepOf isStep)
  rw [isNaming, notNaming, notMember]
  rfl

/-! ## References -/

/-- The names that a step leads into the scope of. -/
def introducedBy (tree : Json) : Json.Step → List String
  | .key name => introduced tree name
  | .index _ => []

/-- Whether a step stays among references. -/
def admits (tree : Json) : Json.Step → Bool
  | .key name => !isNaming tree name
  | .index _ => true

/-- The names that are bound on the way along a path. -/
def boundOn : Json → List Json.Step → List String
  | _, [] => []
  | tree, step :: rest => introducedBy tree step ++ (tree.part? step).elim [] (boundOn · rest)

def isReferencePath : Json → List Json.Step → Bool
  | _, [] => true
  | tree, step :: rest => admits tree step && (tree.part? step).any (isReferencePath · rest)

/-- A path leads to a reference to a name that nothing on the way binds. -/
structure IsFreeAt (name : String) (tree : Json) (path : List Json.Step) : Prop where
  named : (tree.follow? path).any (isNamed name) = true
  isReference : isReferencePath tree path = true
  notBound : name ∉ boundOn tree path

theorem boundOn_cons {tree part : Json} {step : Json.Step} (isPart : tree.part? step = some part)
    (rest : List Json.Step) :
    boundOn tree (step :: rest) = introducedBy tree step ++ boundOn part rest := by
  rw [boundOn, isPart, Option.elim_some]

theorem isReferencePath_cons {tree part : Json} {step : Json.Step}
    (isPart : tree.part? step = some part) (rest : List Json.Step) :
    isReferencePath tree (step :: rest) = (admits tree step && isReferencePath part rest) := by
  rw [isReferencePath, isPart, Option.any_some]

theorem boundOn_append {tree part : Json} {path : List Json.Step}
    (leads : tree.follow? path = some part) (rest : List Json.Step) :
    boundOn tree (path ++ rest) = boundOn tree path ++ boundOn part rest := by
  induction path generalizing tree with
  | nil =>
      rw [Json.follow?, Option.some.injEq] at leads
      rw [leads]
      rfl
  | cons step path ih =>
      rcases Json.part?_of_follow? leads with ⟨inner, isPart, leads⟩
      rw [List.cons_append, boundOn_cons isPart, boundOn_cons isPart, ih leads, List.append_assoc]

theorem isReferencePath_append {tree part : Json} {path : List Json.Step}
    (leads : tree.follow? path = some part) (rest : List Json.Step) :
    isReferencePath tree (path ++ rest) =
      (isReferencePath tree path && isReferencePath part rest) := by
  induction path generalizing tree with
  | nil =>
      rw [Json.follow?, Option.some.injEq] at leads
      rw [leads]
      rfl
  | cons step path ih =>
      rcases Json.part?_of_follow? leads with ⟨inner, isPart, leads⟩
      rw [List.cons_append, isReferencePath_cons isPart, isReferencePath_cons isPart, ih leads,
        Bool.and_assoc]

/-- A name is free inside a part of a tree if it is free in that part and not bound before it. -/
theorem isFreeAt_append_iff {name : String} {tree part : Json} {path place : List Json.Step}
    (leads : tree.follow? path = some part) (isReference : isReferencePath tree path = true) :
    IsFreeAt name tree (path ++ place) ↔ IsFreeAt name part place ∧ name ∉ boundOn tree path := by
  constructor
  · rintro ⟨named, staysReference, notBound⟩
    rw [Json.follow?_append leads] at named
    rw [isReferencePath_append leads, Bool.and_eq_true] at staysReference
    rw [boundOn_append leads, List.mem_append, not_or] at notBound
    exact ⟨⟨named, staysReference.2, notBound.2⟩, notBound.1⟩
  · rintro ⟨⟨named, staysReference, notBound⟩, notBefore⟩
    constructor
    · rwa [Json.follow?_append leads]
    · rw [isReferencePath_append leads, isReference, staysReference]
      rfl
    · rw [boundOn_append leads, List.mem_append, not_or]
      exact ⟨notBefore, notBound⟩

theorem exists_text_of_part?_identifier {name : String} {step : Json.Step} {part : Json}
    (isPart : (identifier (.str name)).part? step = some part) : ∃ text, part = .str text := by
  cases step with
  | index position => simp [identifier, ofType, Json.part?] at isPart
  | key key =>
      have found : ([("type", .str "Identifier"), ("name", .str name)] :
          List (String × Json)).lookup key = some part := isPart
      rw [List.lookup_cons] at found
      split at found
      · exact ⟨_, (Option.some.inj found).symm⟩
      rw [List.lookup_cons] at found
      split at found
      · exact ⟨_, (Option.some.inj found).symm⟩
      · simp at found

/-- An identifier refers to its own name and to nothing else. -/
theorem isFreeAt_identifier_iff {name other : String} {path : List Json.Step} :
    IsFreeAt name (identifier (.str other)) path ↔ path = [] ∧ name = other := by
  constructor
  · rintro ⟨named, _, _⟩
    cases path with
    | nil => exact ⟨rfl, isNamed_unique named (isNamed_identifier other)⟩
    | cons step rest =>
        -- the type and the name of an identifier are texts, which have no parts
        rw [Option.any_eq_true] at named
        rcases named with ⟨node, leads, isNamed⟩
        rcases Json.part?_of_follow? leads with ⟨part, isPart, leads⟩
        rcases exists_text_of_part?_identifier isPart with ⟨text, rfl⟩
        rw [Json.eq_of_follow?_str leads] at isNamed
        simp [Node.isNamed, hasType, Json.field?] at isNamed
  · rintro ⟨rfl, rfl⟩
    exact ⟨isNamed_identifier name, rfl, List.not_mem_nil⟩

end ClassLift.Node

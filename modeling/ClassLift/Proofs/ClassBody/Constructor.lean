import ClassLift.ClassBody.Instance
import ClassLift.Proofs.LookUp

/-!
# Constructors in class bodies

The constructor of a class body is told by its type and kind, and its statements
are found three fields deep. Adding statements at their end changes nothing else
of the constructor, and taking them away again gives it back.
-/

namespace ClassLift

namespace Node

/-- Whether a node is of the given type. -/
def hasType (type : String) (node : Json) : Bool :=
  (node.field? "type").any (·.isStr type)

/-- Whether a member of a class body is a method definition of kind `constructor`. -/
def isClassConstructor (node : Json) : Bool :=
  hasType "MethodDefinition" node && (node.field? "kind").any (·.isStr "constructor")

/-- Whether a member of a class body is a declared field. -/
def isField (node : Json) : Bool :=
  hasType "PropertyDefinition" node

/-- The members of a class body that are neither fields nor its constructor. -/
def isPlainMember (node : Json) : Bool :=
  !isClassConstructor node && !isField node

theorem isConstructor_eq_ok {node : Json} {isConstructor : Bool}
    (read : Node.isConstructor node = .ok isConstructor) :
    isConstructor = isClassConstructor node := by
  unfold Node.isConstructor at read
  rcases bind_eq_ok_iff.mp read with ⟨type, typeRead, read⟩
  rcases bind_eq_ok_iff.mp read with ⟨kind, kindRead, read⟩
  rw [pure_eq_ok_iff, Json.field_eq_ok typeRead, Json.field_eq_ok kindRead,
    Json.isStr_getD_null, Json.isStr_getD_null] at read
  exact read.symm

@[simp]
theorem isClassConstructor_toField (entry : MemberEntry) :
    isClassConstructor entry.toField = false :=
  rfl

@[simp]
theorem isField_toField (entry : MemberEntry) : isField entry.toField = true :=
  rfl

@[simp]
theorem isField_toMethod (entry : MemberEntry) (isStatic : Bool) :
    isField (entry.toMethod isStatic) = false :=
  rfl

/-- A method is never of kind `constructor`: it is a getter, a setter or plain. -/
@[simp]
theorem isClassConstructor_toMethod (entry : MemberEntry) (isStatic : Bool) :
    isClassConstructor (entry.toMethod isStatic) = false := by
  have kindIs : (entry.toMethod isStatic).field? "kind" = some entry.methodKind := rfl
  rw [isClassConstructor, kindIs, Option.any_some, MemberEntry.methodKind]
  split
  · rename_i isAccessor
    rw [MemberEntry.isAccessor, Bool.or_eq_true, Json.isStr_iff, Json.isStr_iff] at isAccessor
    rcases isAccessor with isGetter | isSetter
    · simp [isGetter, Json.isStr]
    · simp [isSetter, Json.isStr]
  · simp [Json.isStr]

theorem isPlainMember_toMethod (entry : MemberEntry) (isStatic : Bool) :
    isPlainMember (entry.toMethod isStatic) = true := by
  simp [isPlainMember]

theorem isClassConstructor_of_isPlainMember {member : Json}
    (plain : isPlainMember member = true) : isClassConstructor member = false := by
  simp only [isPlainMember, Bool.and_eq_true, Bool.not_eq_true'] at plain
  exact plain.1

theorem isField_of_isPlainMember {member : Json} (plain : isPlainMember member = true) :
    isField member = false := by
  simp only [isPlainMember, Bool.and_eq_true, Bool.not_eq_true'] at plain
  exact plain.2

/-! ## Statements -/

theorem constructorStatements_eq_ok_iff {node statements : Json} :
    constructorStatements node = .ok statements ↔
      ∃ function block, node.field? "value" = some function ∧
        function.field? "body" = some block ∧ block.field? "body" = some statements := by
  simp only [constructorStatements, bind_eq_ok_iff, Json.required_eq_ok_iff]
  constructor
  · rintro ⟨function, functionRead, block, blockRead, statementsRead⟩
    exact ⟨function, block, functionRead, blockRead, statementsRead⟩
  · rintro ⟨function, block, functionRead, blockRead, statementsRead⟩
    exact ⟨function, functionRead, block, blockRead, statementsRead⟩

theorem constructorStatements_withConstructorStatements {node found : Json}
    (read : constructorStatements node = .ok found) (statements : List Json) :
    constructorStatements (withConstructorStatements node statements) = .ok (.arr statements) := by
  rw [constructorStatements_eq_ok_iff] at read ⊢
  rcases read with ⟨function, block, functionRead, blockRead, foundRead⟩
  refine ⟨function.update "body" (·.update "body" fun _ => .arr statements),
    block.update "body" fun _ => .arr statements, ?_, ?_, ?_⟩
  · rw [withConstructorStatements, Json.field?_update, functionRead, Option.map_some]
  · rw [Json.field?_update, blockRead, Option.map_some]
  · rw [Json.field?_update, foundRead, Option.map_some]

/-- Only the last replacement of the statements counts. -/
theorem withConstructorStatements_withConstructorStatements (node : Json)
    (statements later : List Json) :
    withConstructorStatements (withConstructorStatements node statements) later =
      withConstructorStatements node later := by
  simp only [withConstructorStatements, Json.update_update]

theorem withConstructorStatements_eq_self {node : Json} {statements : List Json}
    (read : constructorStatements node = .ok (.arr statements)) :
    withConstructorStatements node statements = node := by
  rcases constructorStatements_eq_ok_iff.mp read with
    ⟨function, block, functionRead, blockRead, statementsRead⟩
  apply Json.update_eq_self
  intro found foundRead
  obtain rfl : function = found := by simpa [functionRead] using foundRead
  apply Json.update_eq_self
  intro found foundRead
  obtain rfl : block = found := by simpa [blockRead] using foundRead
  apply Json.update_eq_self
  intro found foundRead
  simpa [statementsRead] using foundRead

theorem field?_withConstructorStatements {key : String} (differ : key ≠ "value") (node : Json)
    (statements : List Json) :
    (withConstructorStatements node statements).field? key = node.field? key :=
  Json.field?_update_of_ne differ _ node

/-- Adds statements at the end of a constructor; one without a list of them stays as it is. -/
def appendStatements (node : Json) (added : List Json) : Json :=
  match constructorStatements node with
  | .ok (.arr statements) => withConstructorStatements node (statements ++ added)
  | _ => node

theorem appendStatements_of_read {node : Json} {statements : List Json}
    (read : constructorStatements node = .ok (.arr statements)) (added : List Json) :
    appendStatements node added = withConstructorStatements node (statements ++ added) := by
  rw [appendStatements, read]

@[simp]
theorem appendStatements_nil (node : Json) : appendStatements node [] = node := by
  unfold appendStatements
  split
  · rename_i statements read
    rw [List.append_nil]
    exact withConstructorStatements_eq_self read
  · rfl

theorem constructorStatements_appendStatements {node : Json} {statements : List Json}
    (read : constructorStatements node = .ok (.arr statements)) (added : List Json) :
    constructorStatements (appendStatements node added) = .ok (.arr (statements ++ added)) := by
  rw [appendStatements_of_read read]
  exact constructorStatements_withConstructorStatements read _

/-- Adding statements twice adds them all at once. -/
theorem appendStatements_appendStatements (node : Json) (added later : List Json) :
    appendStatements (appendStatements node added) later =
      appendStatements node (added ++ later) := by
  by_cases hasList : ∃ statements, constructorStatements node = .ok (.arr statements)
  · rcases hasList with ⟨statements, read⟩
    rw [appendStatements_of_read (constructorStatements_appendStatements read added) later,
      appendStatements_of_read read, appendStatements_of_read read,
      withConstructorStatements_withConstructorStatements, List.append_assoc]
  · have stays : ∀ added, appendStatements node added = node := by
      intro added
      unfold appendStatements
      split
      · rename_i statements read
        exact absurd ⟨statements, read⟩ hasList
      · rfl
    rw [stays, stays, stays]

theorem field?_appendStatements {key : String} (differ : key ≠ "value") (node : Json)
    (added : List Json) : (appendStatements node added).field? key = node.field? key := by
  unfold appendStatements
  split
  · exact field?_withConstructorStatements differ node _
  · rfl

@[simp]
theorem isClassConstructor_appendStatements (node : Json) (added : List Json) :
    isClassConstructor (appendStatements node added) = isClassConstructor node := by
  have sameType := field?_appendStatements (show "type" ≠ "value" by decide) node added
  have sameKind := field?_appendStatements (show "kind" ≠ "value" by decide) node added
  rw [isClassConstructor, hasType, sameType, sameKind, isClassConstructor, hasType]

@[simp]
theorem isField_appendStatements (node : Json) (added : List Json) :
    isField (appendStatements node added) = isField node := by
  have sameType := field?_appendStatements (show "type" ≠ "value" by decide) node added
  rw [isField, hasType, sameType, isField, hasType]

end Node

/-- A class body has only one way to be taken apart at its first constructor. -/
theorem eq_of_isFirst {before after other rest : List Json} {node found : Json}
    (isConstructor : Node.isClassConstructor node = true)
    (isFirst : ∀ member ∈ before, Node.isClassConstructor member = false)
    (alsoConstructor : Node.isClassConstructor found = true)
    (alsoFirst : ∀ member ∈ other, Node.isClassConstructor member = false)
    (same : before ++ node :: after = other ++ found :: rest) :
    before = other ∧ node = found ∧ after = rest := by
  induction before generalizing other with
  | nil =>
      cases other with
      | nil => simpa using same
      | cons member others =>
          rw [List.nil_append, List.cons_append, List.cons.injEq] at same
          have notConstructor := alsoFirst member List.mem_cons_self
          rw [← same.1, isConstructor] at notConstructor
          simp at notConstructor
  | cons member members ih =>
      cases other with
      | nil =>
          rw [List.nil_append, List.cons_append, List.cons.injEq] at same
          have notConstructor := isFirst member List.mem_cons_self
          rw [same.1, alsoConstructor] at notConstructor
          simp at notConstructor
      | cons otherMember others =>
          rw [List.cons_append, List.cons_append, List.cons.injEq] at same
          have restSame := ih
            (fun other otherMem => isFirst other (List.mem_cons_of_mem _ otherMem))
            (fun other otherMem => alsoFirst other (List.mem_cons_of_mem _ otherMem)) same.2
          rw [same.1, restSame.1]
          exact ⟨rfl, restSame.2⟩

namespace ConstructorSlot

/-- The search gives the first constructor of a body, and fails to find one if there is none. -/
theorem find?_eq_ok {body : List Json} {slot? : Option ConstructorSlot}
    (found : find? body = .ok slot?) :
    (slot? = none ∧ ∀ member ∈ body, Node.isClassConstructor member = false) ∨
      ∃ before node after, slot? = some (.within before node after) ∧
        body = before ++ node :: after ∧ Node.isClassConstructor node = true ∧
        ∀ member ∈ before, Node.isClassConstructor member = false := by
  induction body generalizing slot? with
  | nil =>
      simp only [find?, Except.ok.injEq] at found
      simp [← found]
  | cons member rest ih =>
      simp only [find?] at found
      rcases bind_eq_ok_iff.mp found with ⟨isConstructor, constructorRead, found⟩
      have constructorIs := Node.isConstructor_eq_ok constructorRead
      split at found
      · rename_i isConstructor
        rw [pure_eq_ok_iff] at found
        right
        refine ⟨[], member, rest, found.symm, rfl, ?_, by simp⟩
        rw [← constructorIs, isConstructor]
      · rename_i notConstructor
        have memberIs : Node.isClassConstructor member = false := by
          rw [← constructorIs]
          simpa using notConstructor
        rcases bind_eq_ok_iff.mp found with ⟨restSlot, restFound, chosen⟩
        rcases ih restFound with ⟨rfl, others⟩ | ⟨before, node, after, rfl, rfl, isNode, others⟩
        · left
          rw [pure_eq_ok_iff] at chosen
          simpa [← chosen, memberIs] using others
        · right
          rw [pure_eq_ok_iff] at chosen
          refine ⟨member :: before, node, after, chosen.symm, rfl, isNode, ?_⟩
          simpa [memberIs] using others

end ConstructorSlot

end ClassLift

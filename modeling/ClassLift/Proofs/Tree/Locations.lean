import ClassLift.Namespace.Scope
import ClassLift.Proofs.LookUp
import ClassLift.Tree

/-!
# Reading and building trees without locations

Stripping the locations of a tree changes nothing that is asked of it later: a
look-up under any other key finds the stripped value, and generated nodes have no
locations of their own. Two runs, one on a tree and one on the stripped tree, are
compared with `StripsTo`: both fail alike, or both succeed with values that are
related.
-/

namespace ClassLift

namespace Json

@[simp]
theorem stripLocations_null : null.stripLocations = .null :=
  rfl

@[simp]
theorem stripLocations_bool (value : Bool) : (Json.bool value).stripLocations = .bool value :=
  rfl

@[simp]
theorem stripLocations_str (text : String) : (Json.str text).stripLocations = .str text :=
  rfl

@[simp]
theorem stripLocations_arr (items : List Json) :
    (Json.arr items).stripLocations = .arr (items.map stripLocations) := by
  rw [stripLocations]
  congr 1
  induction items with
  | nil => rw [stripItems, List.map_nil]
  | cons item rest ih => rw [stripItems, ih, List.map_cons]

theorem stripLocations_eq_null_iff {tree : Json} : tree.stripLocations = .null ↔ tree = .null := by
  cases tree <;> simp [stripLocations]

@[simp]
theorem isStr_stripLocations (text : String) (tree : Json) :
    tree.stripLocations.isStr text = tree.isStr text := by
  cases tree <;> rfl

section Fields

variable {key : String} (kept : isLocationKey key = false)
include kept

theorem lookup_stripFields (fields : List (String × Json)) :
    (stripFields fields).lookup key = (fields.lookup key).map stripLocations := by
  induction fields with
  | nil => rfl
  | cons field rest ih =>
      rcases field with ⟨otherKey, value⟩
      by_cases isLocation : isLocationKey otherKey = true
      · have differs : (key == otherKey) = false := by
          rw [beq_eq_false_iff_ne]
          rintro rfl
          simp [kept] at isLocation
        rw [stripFields, if_pos isLocation, ih, List.lookup_cons, differs]
      · rw [stripFields, if_neg isLocation, List.lookup_cons, List.lookup_cons, ih]
        cases key == otherKey <;> rfl

theorem field?_stripLocations (tree : Json) :
    tree.stripLocations.field? key = (tree.field? key).map stripLocations := by
  cases tree with
  | obj fields => exact lookup_stripFields kept fields
  | null | bool | int | float | str | arr => rfl

theorem stripFields_updateFields {change changeBare : Json → Json}
    (same : ∀ part, (change part).stripLocations = changeBare part.stripLocations)
    (fields : List (String × Json)) :
    stripFields (updateFields key change fields) =
      updateFields key changeBare (stripFields fields) := by
  induction fields with
  | nil => rfl
  | cons field rest ih =>
      rcases field with ⟨otherKey, value⟩
      by_cases here : otherKey = key
      · subst here
        simp [updateFields, stripFields, kept, same]
      · by_cases isLocation : isLocationKey otherKey = true
        · simp [updateFields, stripFields, here, isLocation, ih]
        · simp [updateFields, stripFields, here, isLocation, ih]

theorem stripLocations_update {change changeBare : Json → Json}
    (same : ∀ part, (change part).stripLocations = changeBare part.stripLocations) (tree : Json) :
    (tree.update key change).stripLocations = tree.stripLocations.update key changeBare := by
  cases tree with
  | obj fields =>
      simp only [update, stripLocations, stripFields_updateFields kept same]
  | null | bool | int | float | str | arr => rfl

end Fields

end Json

/-! ## Generated nodes -/

namespace Node

open Json (stripLocations)

@[simp]
theorem stripLocations_identifier (name : Json) :
    (identifier name).stripLocations = identifier name.stripLocations :=
  rfl

@[simp]
theorem stripLocations_thisExpression : thisExpression.stripLocations = thisExpression :=
  rfl

@[simp]
theorem stripLocations_member (object property computed : Json) :
    (member object property computed).stripLocations =
      member object.stripLocations property.stripLocations computed.stripLocations :=
  rfl

@[simp]
theorem stripLocations_dot (object name : Json) :
    (dot object name).stripLocations = dot object.stripLocations name.stripLocations :=
  rfl

@[simp]
theorem stripLocations_assignmentStatement (left right : Json) :
    (assignmentStatement left right).stripLocations =
      assignmentStatement left.stripLocations right.stripLocations :=
  rfl

@[simp]
theorem stripLocations_constDeclaration (name init : Json) :
    (constDeclaration name init).stripLocations =
      constDeclaration name.stripLocations init.stripLocations :=
  rfl

@[simp]
theorem stripLocations_orElse (fallback given : Json) :
    (orElse fallback given).stripLocations = orElse fallback.stripLocations given.stripLocations := by
  cases given <;> rfl

@[simp]
theorem stripLocations_functionExpression
    (params body functionId generator isAsync expression : Json) :
    (functionExpression params body functionId generator isAsync expression).stripLocations =
      functionExpression params.stripLocations body.stripLocations functionId.stripLocations
        generator.stripLocations isAsync.stripLocations expression.stripLocations := by
  have byParts : (functionExpression params body functionId generator isAsync
      expression).stripLocations = ofType "FunctionExpression"
        [("id", functionId.stripLocations), ("generator", generator.stripLocations),
          ("expression", expression.stripLocations), ("async", isAsync.stripLocations),
          ("params", (orElse (.arr []) params).stripLocations),
          ("body", (orElse (block .null) body).stripLocations)] := rfl
  rw [byParts, stripLocations_orElse, stripLocations_orElse]
  rfl

@[simp]
theorem stripLocations_methodDefinition (key value kind isStatic computed : Json) :
    (methodDefinition key value kind isStatic computed).stripLocations =
      methodDefinition key.stripLocations value.stripLocations kind.stripLocations
        isStatic.stripLocations computed.stripLocations :=
  rfl

@[simp]
theorem stripLocations_propertyDefinition (key value computed : Json) :
    (propertyDefinition key value computed).stripLocations =
      propertyDefinition key.stripLocations value.stripLocations computed.stripLocations :=
  rfl

@[simp]
theorem stripLocations_classWith (name superClass : Json) (members : List Json) :
    (classWith name superClass members).stripLocations =
      classWith name.stripLocations superClass.stripLocations (members.map stripLocations) := by
  have byParts : (classWith name superClass members).stripLocations = ofType "ClassExpression"
      [("id", (identifier name).stripLocations), ("superClass", superClass.stripLocations),
        ("body", ofType "ClassBody" [("body", (Json.arr members).stripLocations)])] := rfl
  rw [byParts, Json.stripLocations_arr]
  rfl

@[simp]
theorem stripLocations_program (body : Json) :
    (program body).stripLocations = program body.stripLocations :=
  rfl

end Node

namespace Scope

@[simp]
theorem stripLocations_chain (object : Json) (names : List String) :
    (chain object names).stripLocations = chain object.stripLocations names := by
  induction names generalizing object with
  | nil => rfl
  | cons name rest ih =>
      have inner := ih (Node.dot object (.str name))
      rw [Node.stripLocations_dot, Json.stripLocations_str] at inner
      exact inner

@[simp]
theorem stripLocations_guard (target : Json) :
    (guard target).stripLocations = guard target.stripLocations :=
  rfl

@[simp]
theorem stripLocations_accessor (scope : Scope) (path : NamespacePath) :
    (scope.accessor path).stripLocations = scope.accessor path := by
  unfold accessor global
  split <;> simp

end Scope

/-! ## Comparing two runs -/

/-- The failure whose value, if it tells one, has no locations. -/
def Failure.stripLocations : Failure → Failure
  | .invalidNamespace found fault => .invalidNamespace found.stripLocations fault
  | .invalidMemberTable position found => .invalidMemberTable position found.stripLocations
  | other => other

/--
How the outcome of a run and that of the run without locations compare: they are
the same failure, but for the locations of the value it tells, or related values.
-/
inductive StripsTo {α β : Type} (related : α → β → Prop) :
    Except Failure α → Except Failure β → Prop where
  | fails (failure : Failure) : StripsTo related (.error failure) (.error failure.stripLocations)
  | succeeds {value : α} {bare : β} (areRelated : related value bare) :
      StripsTo related (.ok value) (.ok bare)

namespace StripsTo

variable {α β γ δ : Type} {related : α → β → Prop} {relatedAfter : γ → δ → Prop}

theorem bind {first : Except Failure α} {firstBare : Except Failure β}
    {second : α → Except Failure γ} {secondBare : β → Except Failure δ}
    (compares : StripsTo related first firstBare)
    (goesOn : ∀ value bare, first = .ok value → related value bare →
      StripsTo relatedAfter (second value) (secondBare bare)) :
    StripsTo relatedAfter (first >>= second) (firstBare >>= secondBare) := by
  cases compares with
  | fails failure => exact .fails failure
  | succeeds areRelated => exact goesOn _ _ rfl areRelated

theorem shape (fault : ShapeFault) :
    StripsTo related (.error (.shape fault)) (.error (.shape fault)) :=
  .fails (.shape fault)

/-- Actions that compare for each item compare for a list of items. -/
theorem mapM {strip : α → β} {stripResult : γ → δ} {action : α → Except Failure γ}
    {actionBare : β → Except Failure δ}
    (each : ∀ item, StripsTo (stripResult · = ·) (action item) (actionBare (strip item)))
    (items : List α) :
    StripsTo (List.map stripResult · = ·) (items.mapM action)
      ((items.map strip).mapM actionBare) := by
  induction items with
  | nil => exact .succeeds rfl
  | cons item rest ih =>
      rw [List.map_cons, List.mapM_cons, List.mapM_cons]
      apply (each item).bind
      rintro value _ _ rfl
      apply ih.bind
      rintro values _ _ rfl
      exact .succeeds rfl

end StripsTo

namespace Json

variable (key : String) (kept : isLocationKey key = false) (tree : Json)
include kept

theorem field_stripsTo :
    StripsTo (·.stripLocations = ·) (tree.field key) (tree.stripLocations.field key) := by
  cases tree with
  | obj fields =>
      apply StripsTo.succeeds
      rw [lookup_stripFields kept]
      cases fields.lookup key <;> rfl
  | null | bool | int | float | str | arr => exact .shape _

theorem fieldOr_stripsTo (fallback : Json) :
    StripsTo (·.stripLocations = ·) (tree.fieldOr key fallback)
      (tree.stripLocations.fieldOr key fallback.stripLocations) := by
  cases tree with
  | obj fields =>
      apply StripsTo.succeeds
      rw [lookup_stripFields kept]
      cases fields.lookup key <;> rfl
  | null | bool | int | float | str | arr => exact .shape _

theorem required_stripsTo :
    StripsTo (·.stripLocations = ·) (tree.required key) (tree.stripLocations.required key) := by
  cases tree with
  | obj fields =>
      simp only [stripLocations, required, lookup_stripFields kept]
      cases fields.lookup key with
      | none => exact .shape _
      | some value => exact .succeeds rfl
  | null | bool | int | float | str | arr => exact .shape _

end Json

end ClassLift

import ClassLift.ClassBody.Placement
import ClassLift.Trace

/-!
# What successful look-ups say

A look-up that can fail is compared with the plain view `Json.field?` of a
tree, so that later proofs speak of the fields of a tree and no longer of the
ways in which reading them can go wrong. The same is done for the statements of
a constructor, which lie three fields deep.
-/

namespace ClassLift

/-- A sequence succeeds exactly if its parts do, the second on the result of the first. -/
theorem bind_eq_ok_iff {ε α β : Type} {first : Except ε α} {second : α → Except ε β} {result : β} :
    first >>= second = .ok result ↔ ∃ value, first = .ok value ∧ second value = .ok result := by
  cases first with
  | error failure => simp [bind, Except.bind]
  | ok value => simp [bind, Except.bind]

theorem ok_bind {ε α β : Type} (value : α) (second : α → Except ε β) :
    Except.ok value >>= second = second value :=
  rfl

theorem error_bind {ε α β : Type} (failure : ε) (second : α → Except ε β) :
    Except.error failure >>= second = .error failure :=
  rfl

theorem pure_eq_ok_iff {ε α : Type} {value result : α} :
    (pure value : Except ε α) = .ok result ↔ value = result := by
  simp [pure, Except.pure]

namespace Json

theorem isStr_iff {text : String} {value : Json} : value.isStr text = true ↔ value = .str text := by
  cases value <;> simp [isStr]

/-- A field that is not there is no string, as null is none. -/
theorem isStr_getD_null (text : String) (found : Option Json) :
    (found.getD .null).isStr text = found.any (·.isStr text) := by
  cases found <;> rfl

theorem isTruthy_bool (value : Bool) : (Json.bool value).isTruthy = value :=
  rfl

theorem field_eq_ok {key : String} {value found : Json} (read : value.field key = .ok found) :
    found = (value.field? key).getD .null := by
  cases value with
  | obj fields =>
      simp only [field, Except.ok.injEq] at read
      exact read.symm
  | null | bool | int | float | str | arr => simp [field] at read

theorem fieldOr_eq_ok {key : String} {value fallback found : Json}
    (read : fieldOr key value fallback = .ok found) :
    found = (value.field? key).getD fallback := by
  cases value with
  | obj fields =>
      simp only [fieldOr, Except.ok.injEq] at read
      exact read.symm
  | null | bool | int | float | str | arr => simp [fieldOr] at read

theorem required_eq_ok_iff {key : String} {value found : Json} :
    value.required key = .ok found ↔ value.field? key = some found := by
  cases value with
  | obj fields =>
      simp only [required, field?]
      cases fields.lookup key with
      | none => simp
      | some other => simp
  | null | bool | int | float | str | arr => simp [required, field?]

/-! ## Changing a field -/

theorem lookup_updateFields (key : String) (change : Json → Json)
    (fields : List (String × Json)) :
    (updateFields key change fields).lookup key = (fields.lookup key).map change := by
  induction fields with
  | nil => rfl
  | cons entry rest ih =>
      rcases entry with ⟨otherKey, value⟩
      by_cases same : otherKey = key
      · simp [updateFields, same]
      · have differs : (key == otherKey) = false := by simpa using Ne.symm same
        simp [updateFields, same, List.lookup_cons, differs, ih]

theorem lookup_updateFields_of_ne {key otherKey : String} (differ : otherKey ≠ key)
    (change : Json → Json) (fields : List (String × Json)) :
    (updateFields key change fields).lookup otherKey = fields.lookup otherKey := by
  induction fields with
  | nil => rfl
  | cons entry rest ih =>
      rcases entry with ⟨entryKey, value⟩
      by_cases same : entryKey = key
      · have differs : (otherKey == key) = false := by simpa using differ
        simp [updateFields, same, List.lookup_cons, differs]
      · simp [updateFields, same, List.lookup_cons, ih]

theorem field?_update (key : String) (change : Json → Json) (value : Json) :
    (value.update key change).field? key = (value.field? key).map change := by
  cases value with
  | obj fields => exact lookup_updateFields key change fields
  | null | bool | int | float | str | arr => rfl

theorem field?_update_of_ne {key otherKey : String} (differ : otherKey ≠ key)
    (change : Json → Json) (value : Json) :
    (value.update key change).field? otherKey = value.field? otherKey := by
  cases value with
  | obj fields => exact lookup_updateFields_of_ne differ change fields
  | null | bool | int | float | str | arr => rfl

theorem updateFields_eq_self {key : String} {change : Json → Json}
    {fields : List (String × Json)}
    (same : ∀ part, fields.lookup key = some part → change part = part) :
    updateFields key change fields = fields := by
  induction fields with
  | nil => rfl
  | cons entry rest ih =>
      rcases entry with ⟨entryKey, value⟩
      by_cases here : entryKey = key
      · have valueStays : change value = value := by
          apply same
          simp [here]
        simp [updateFields, here, valueStays]
      · have differs : (key == entryKey) = false := by simpa using Ne.symm here
        have restStays : updateFields key change rest = rest := by
          apply ih
          intro part found
          apply same
          simpa [List.lookup_cons, differs] using found
        simp [updateFields, here, restStays]

/-- A change that leaves the value of its field alone leaves the whole tree alone. -/
theorem update_eq_self {key : String} {change : Json → Json} {value : Json}
    (same : ∀ part, value.field? key = some part → change part = part) :
    value.update key change = value := by
  cases value with
  | obj fields => simp only [update, updateFields_eq_self same]
  | null | bool | int | float | str | arr => rfl

theorem updateFields_updateFields (key : String) (change later : Json → Json)
    (fields : List (String × Json)) :
    updateFields key later (updateFields key change fields) =
      updateFields key (fun part => later (change part)) fields := by
  induction fields with
  | nil => rfl
  | cons entry rest ih =>
      rcases entry with ⟨entryKey, value⟩
      by_cases same : entryKey = key
      · simp [updateFields, same]
      · simp [updateFields, same, ih]

/-- Two changes of one field are one. -/
theorem update_update (key : String) (change later : Json → Json) (value : Json) :
    (value.update key change).update key later =
      value.update key (fun part => later (change part)) := by
  cases value with
  | obj fields => simp only [update, updateFields_updateFields]
  | null | bool | int | float | str | arr => rfl

end Json

end ClassLift

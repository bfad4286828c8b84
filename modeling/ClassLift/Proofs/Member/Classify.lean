import ClassLift.Member.Classify
import ClassLift.Proofs.LookUp

/-!
# Members by role

Which role an entry has can be said without running the classification: the
first entry that may be the constructor is taken out, and what is left is
divided into methods and data. `ClassifiedMembers.byRole` says this with the
list operations of the library, and a classification that succeeds gives just
that.
-/

namespace ClassLift

namespace MemberEntry

/-- Whether the value of an entry is a function expression. -/
def hasFunction (entry : MemberEntry) : Bool :=
  (entry.value.field? "type").any (·.isStr "FunctionExpression")

/-- Whether an entry belongs to the methods: functions, getters and setters do. -/
def isMethod (entry : MemberEntry) : Bool :=
  entry.hasFunction || entry.isAccessor

/-- Whether the key of an entry is the given name, as an identifier or as a string. -/
def isNamed (name : String) (entry : MemberEntry) : Bool :=
  !entry.computed &&
    (((entry.key.field? "type").any (·.isStr "Identifier") &&
        (entry.key.field? "name").any (·.isStr name)) ||
      ((entry.key.field? "type").any (·.isStr "Literal") &&
        (entry.key.field? "value").any (·.isStr name)))

/-- Whether an entry can serve as the constructor of the given name. -/
def isConstructorNamed (name : String) (entry : MemberEntry) : Bool :=
  !entry.isAccessor && entry.hasFunction && entry.isNamed name

/-- Whether an entry is taken as the constructor when no other has been. -/
def mayConstruct (constructorName : Option String) (found : Bool) (entry : MemberEntry) : Bool :=
  !found && constructorName.any entry.isConstructorNamed

theorem hasFunction_of_mayConstruct {constructorName : Option String} {found : Bool}
    {entry : MemberEntry} (may : entry.mayConstruct constructorName found = true) :
    entry.hasFunction = true := by
  cases constructorName with
  | none => simp [mayConstruct] at may
  | some name =>
      simp only [mayConstruct, Option.any_some, isConstructorNamed, Bool.and_eq_true] at may
      exact may.2.1.2

theorem isMethod_of_mayConstruct {constructorName : Option String} {found : Bool}
    {entry : MemberEntry} (may : entry.mayConstruct constructorName found = true) :
    entry.isMethod = true := by
  rw [isMethod, hasFunction_of_mayConstruct may, Bool.true_or]

theorem mayConstruct_true (constructorName : Option String) (entry : MemberEntry) :
    entry.mayConstruct constructorName true = false := by
  simp [mayConstruct]

theorem mayConstruct_none (found : Bool) (entry : MemberEntry) :
    entry.mayConstruct none found = false := by
  simp [mayConstruct]

theorem isFunction_eq_ok {entry : MemberEntry} {isFunction : Bool}
    (read : entry.isFunction = .ok isFunction) : isFunction = entry.hasFunction := by
  unfold MemberEntry.isFunction at read
  rcases bind_eq_ok_iff.mp read with ⟨type, typeRead, read⟩
  rw [pure_eq_ok_iff, Json.field_eq_ok typeRead, Json.isStr_getD_null] at read
  exact read.symm

theorem sameValue_str (found : Json) (name : String) :
    found.sameValue (.str name) = found.isStr name := by
  cases found <;> simp [Json.sameValue, Json.isStr, Json.sameScalar, Json.quantity?]

theorem name_eq_ok {entry : MemberEntry} {found : Json} (read : entry.name = .ok found)
    (name : String) : found.sameValue (.str name) = entry.isNamed name := by
  rw [sameValue_str]
  unfold MemberEntry.name at read
  split at read
  · rename_i computed
    simp only [Except.ok.injEq] at read
    simp [← read, isNamed, computed, Json.isStr]
  rename_i notComputed
  rcases bind_eq_ok_iff.mp read with ⟨type, typeRead, read⟩
  have typeAny : ∀ text, (entry.key.field? "type").any (·.isStr text) = type.isStr text := by
    intro text
    rw [Json.field_eq_ok typeRead, Json.isStr_getD_null]
  simp only [isNamed, typeAny, notComputed, Bool.not_false, Bool.true_and]
  split at read
  · rename_i isIdentifier
    rw [Json.isStr_iff.mp isIdentifier, Json.field_eq_ok read, Json.isStr_getD_null]
    simp [Json.isStr]
  · rename_i notIdentifier
    rcases bind_eq_ok_iff.mp read with ⟨value, valueRead, read⟩
    rw [← Json.isStr_getD_null name (entry.key.field? "value"), ← Json.field_eq_ok valueRead]
    have notIdentifier : type.isStr "Identifier" = false := by simpa using notIdentifier
    rw [notIdentifier, Bool.false_and, Bool.false_or]
    split at read
    · rename_i text isLiteral
      rw [pure_eq_ok_iff] at read
      rw [← read, isLiteral, Bool.true_and]
    · rename_i value _ _ notText
      rw [pure_eq_ok_iff] at read
      rw [← read]
      cases isLiteral : type.isStr "Literal" with
      | false => rfl
      | true =>
          cases value with
          | str text => exact absurd rfl (notText text isLiteral)
          | null | bool | int | float | arr | obj => rfl

theorem isConstructor_eq_ok {entry : MemberEntry} {name : String} {isConstructor : Bool}
    (read : entry.isConstructor (.str name) = .ok isConstructor) :
    isConstructor = entry.isConstructorNamed name := by
  unfold MemberEntry.isConstructor at read
  unfold isConstructorNamed
  split at read
  · rename_i isAccessor
    rw [pure_eq_ok_iff] at read
    simp [← read, isAccessor]
  rename_i notAccessor
  rcases bind_eq_ok_iff.mp read with ⟨isFunction, functionRead, read⟩
  have functionIs := isFunction_eq_ok functionRead
  split at read
  · rename_i notFunction
    rw [pure_eq_ok_iff] at read
    have noFunction : entry.hasFunction = false := by simpa [functionIs] using notFunction
    rw [← read, noFunction, Bool.and_false, Bool.false_and]
  · rename_i isFunction
    rcases bind_eq_ok_iff.mp read with ⟨found, nameRead, read⟩
    rw [pure_eq_ok_iff, name_eq_ok nameRead name] at read
    have hasFunction : entry.hasFunction = true := by simpa [functionIs] using isFunction
    have noAccessor : entry.isAccessor = false := by simpa using notAccessor
    rw [← read, hasFunction, noAccessor, Bool.not_false, Bool.true_and, Bool.true_and]

/-- The role of an entry, once it is known whether it is the constructor. -/
theorem role_of_isConstructor {entry : MemberEntry} {isConstructor : Bool} {role : MemberRole}
    (read : (if isConstructor then pure .classConstructor
      else do
        let isFunction ← entry.isFunction
        pure (if isFunction || entry.isAccessor then .method else .data) :
          Except Failure MemberRole) = .ok role) :
    role = if isConstructor then .classConstructor
      else if entry.isMethod then .method else .data := by
  split at read
  · rename_i isConstructor
    rw [pure_eq_ok_iff] at read
    simp [isConstructor, read]
  · rename_i notConstructor
    rcases bind_eq_ok_iff.mp read with ⟨isFunction, functionRead, read⟩
    rw [pure_eq_ok_iff, isFunction_eq_ok functionRead] at read
    rw [if_neg notConstructor, isMethod, read]

theorem role_eq_ok {constructorName : Option String} {found : Bool} {entry : MemberEntry}
    {role : MemberRole} (read : entry.role (constructorName.map .str) found = .ok role) :
    role = if entry.mayConstruct constructorName found then .classConstructor
      else if entry.isMethod then .method else .data := by
  cases constructorName with
  | none =>
      rw [mayConstruct_none]
      exact role_of_isConstructor read
  | some name =>
      cases found with
      | true =>
          rw [mayConstruct_true]
          exact role_of_isConstructor read
      | false =>
          rcases bind_eq_ok_iff.mp read with ⟨isConstructor, constructorRead, read⟩
          have roleIs := role_of_isConstructor read
          rw [isConstructor_eq_ok constructorRead] at roleIs
          exact roleIs

end MemberEntry

namespace ClassifiedMembers

/-- The entries of a table by role: the first that may be the constructor, methods and data. -/
def byRole (constructorName : Option String) (found : Bool) (entries : List MemberEntry) :
    ClassifiedMembers where
  classConstructor := entries.find? (·.mayConstruct constructorName found)
  methods := (entries.eraseP (·.mayConstruct constructorName found)).filter (·.isMethod)
  data := entries.filter (!·.isMethod)

theorem split_eq_ok {constructorName : Option String} {found : Bool}
    {entries : List MemberEntry} {members : ClassifiedMembers}
    (splits : split (constructorName.map .str) found entries = .ok members) :
    members = byRole constructorName found entries := by
  induction entries generalizing found members with
  | nil =>
      simp only [split, Except.ok.injEq] at splits
      exact splits.symm
  | cons entry rest ih =>
      simp only [split] at splits
      rcases bind_eq_ok_iff.mp splits with ⟨role, roleRead, splits⟩
      rcases bind_eq_ok_iff.mp splits with ⟨others, othersRead, splits⟩
      rw [pure_eq_ok_iff] at splits
      have roleIs := MemberEntry.role_eq_ok roleRead
      rw [← splits, ih othersRead, roleIs]
      by_cases may : entry.mayConstruct constructorName found = true
      · have isMethod := MemberEntry.isMethod_of_mayConstruct may
        simp [byRole, insert, may, isMethod, MemberEntry.mayConstruct_true,
          List.eraseP_of_forall_not]
      · by_cases isMethod : entry.isMethod = true
        · have stays : (MemberRole.method == MemberRole.classConstructor) = false := rfl
          simp [byRole, insert, may, isMethod, stays]
        · have stays : (MemberRole.data == MemberRole.classConstructor) = false := rfl
          simp [byRole, insert, may, isMethod, stays]

theorem ofEntries_outcome (constructorName : Option Json) (found : Bool)
    (entries : List MemberEntry) :
    (ofEntries constructorName found entries).outcome = split constructorName found entries := by
  simp only [ofEntries, Traced.outcome_bind, Traced.outcome_liftM, Traced.outcome_record,
    Traced.outcome_pure]
  cases split constructorName found entries <;> rfl

/-- Without a name for it no entry is taken as the constructor. -/
theorem byRole_none (found : Bool) (entries : List MemberEntry) :
    byRole none found entries =
      ⟨none, entries.filter (·.isMethod), entries.filter (!·.isMethod)⟩ := by
  simp [byRole, MemberEntry.mayConstruct_none, List.eraseP_of_forall_not]

theorem byRole_true (constructorName : Option String) (entries : List MemberEntry) :
    byRole constructorName true entries =
      ⟨none, entries.filter (·.isMethod), entries.filter (!·.isMethod)⟩ := by
  simp [byRole, MemberEntry.mayConstruct_true, List.eraseP_of_forall_not]

/-- An entry that is taken out and the others are all there are. -/
theorem find?_append_eraseP_perm (takes : MemberEntry → Bool) (entries : List MemberEntry) :
    List.Perm ((entries.find? takes).toList ++ entries.eraseP takes) entries := by
  induction entries with
  | nil => exact .nil
  | cons entry rest ih =>
      by_cases taken : takes entry = true
      · simp [taken]
      · rw [List.find?_cons_of_neg taken, List.eraseP_cons_of_neg taken]
        exact List.perm_middle.trans (ih.cons entry)

/-- Each entry of a table has exactly one role. -/
theorem byRole_perm (constructorName : Option String) (found : Bool)
    (entries : List MemberEntry) :
    List.Perm
      ((byRole constructorName found entries).classConstructor.toList ++
        (byRole constructorName found entries).methods ++
        (byRole constructorName found entries).data)
      entries := by
  have taken := find?_append_eraseP_perm (·.mayConstruct constructorName found) entries
  have methods := taken.filter (·.isMethod)
  have constructorKept :
      (entries.find? (·.mayConstruct constructorName found)).toList.filter (·.isMethod) =
        (entries.find? (·.mayConstruct constructorName found)).toList := by
    rw [List.filter_eq_self]
    intro entry entryMem
    rw [Option.mem_toList] at entryMem
    exact MemberEntry.isMethod_of_mayConstruct (List.find?_some entryMem)
  rw [List.filter_append, constructorKept] at methods
  exact (methods.append_right _).trans (List.filter_append_perm _ entries)

end ClassifiedMembers

end ClassLift

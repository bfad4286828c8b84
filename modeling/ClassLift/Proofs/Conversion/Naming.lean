import ClassLift.Proofs.ClassBody.Effect
import ClassLift.Proofs.Conversion.Verdict

/-!
# When a call is refused for a namespace

Two namespaces are read for a conversion: the one in the first argument of the call
and the one of the superclass in the options. Nothing else of a conversion can fail
because of a namespace, whatever the shape of the call is. So with options whose
namespace can be read, a call is refused for a namespace exactly if its first
argument is no string literal with a dotted name.
-/

namespace ClassLift

/-- A computation that fails for other reasons than a namespace, if it fails. -/
def SparesNames {α : Type} (outcome : Except Failure α) : Prop :=
  ∀ failure, outcome = .error failure → failure.complaint? ≠ some .invalidNamespace

section

variable {α β : Type}

theorem sparesNames_ok (value : α) : SparesNames (.ok value) := by
  simp [SparesNames]

theorem sparesNames_error {failure : Failure}
    (isOther : failure.complaint? ≠ some .invalidNamespace) :
    SparesNames (.error failure : Except Failure α) := by
  rintro _ ⟨⟩
  exact isOther

theorem SparesNames.bind {first : Except Failure α} {second : α → Except Failure β}
    (firstSpares : SparesNames first) (secondSpares : ∀ value, SparesNames (second value)) :
    SparesNames (first >>= second) := by
  cases first with
  | error failure => exact sparesNames_error (firstSpares failure rfl)
  | ok value => exact secondSpares value

theorem FailsByLookUp.sparesNames {outcome : Except Failure α} (fails : FailsByLookUp outcome) :
    SparesNames outcome := by
  intro failure outcomeIs
  rw [fails failure outcomeIs]
  simp [Failure.complaint?]

theorem sparesNames_mapM {action : α → Except Failure β}
    (each : ∀ item, SparesNames (action item)) (items : List α) :
    SparesNames (items.mapM action) := by
  induction items with
  | nil => exact sparesNames_ok []
  | cons item rest ih =>
      rw [List.mapM_cons]
      exact (each item).bind fun _ => ih.bind fun _ => sparesNames_ok _

end

/-! ## Look-ups -/

namespace Json

theorem sparesNames_field (value : Json) (key : String) : SparesNames (value.field key) :=
  (failsByLookUp_field value key).sparesNames

theorem sparesNames_fieldOr (key : String) (value fallback : Json) :
    SparesNames (fieldOr key value fallback) := by
  unfold fieldOr
  split
  · exact sparesNames_ok _
  · exact sparesNames_error (by simp [Failure.complaint?])

theorem sparesNames_required (value : Json) (key : String) : SparesNames (value.required key) := by
  unfold required
  split
  · split
    · exact sparesNames_ok _
    · exact sparesNames_error (by simp [Failure.complaint?])
  · exact sparesNames_error (by simp [Failure.complaint?])

theorem sparesNames_elements (value : Json) : SparesNames value.elements := by
  unfold elements
  split
  · exact sparesNames_ok _
  · exact sparesNames_ok _
  · exact sparesNames_ok _
  · exact sparesNames_error (by simp [Failure.complaint?])

theorem sparesNames_length (value : Json) : SparesNames value.length := by
  unfold length
  split
  · exact sparesNames_ok _
  · exact sparesNames_ok _
  · exact sparesNames_ok _
  · exact sparesNames_error (by simp [Failure.complaint?])

theorem sparesNames_first (value : Json) : SparesNames value.first := by
  unfold first
  split
  · exact sparesNames_ok _
  · exact sparesNames_error (by simp [Failure.complaint?])
  · split
    · exact sparesNames_ok _
    · exact sparesNames_error (by simp [Failure.complaint?])
  · exact sparesNames_error (by simp [Failure.complaint?])
  · exact sparesNames_error (by simp [Failure.complaint?])

end Json

/-! ## Member tables -/

namespace MemberTable

theorem sparesNames_properties (node : Json) (position : Int) :
    SparesNames (properties node position) := by
  unfold properties
  split
  · exact sparesNames_error (by simp [Failure.complaint?])
  · apply (Json.sparesNames_field _ _).bind
    intro type
    apply (Json.sparesNames_field _ _).bind
    intro value
    split
    · exact sparesNames_ok _
    split
    · exact (Json.sparesNames_fieldOr _ _ _).bind Json.sparesNames_elements
    · exact sparesNames_error (by simp [Failure.complaint?])

theorem sparesNames_readProperty (position : Int) (property : Json) :
    SparesNames (readProperty position property) := by
  unfold readProperty
  apply (Json.sparesNames_field _ _).bind
  intro type
  split
  · apply (Json.sparesNames_required _ _).bind
    intro key
    apply (Json.sparesNames_required _ _).bind
    intro value
    apply (Json.sparesNames_fieldOr _ _ _).bind
    intro computed
    exact (Json.sparesNames_fieldOr _ _ _).bind fun _ => sparesNames_ok _
  · exact sparesNames_ok _

theorem sparesNames_readProperties (position : Int) (listed : List Json) :
    SparesNames (readProperties position listed).outcome := by
  induction listed with
  | nil => exact sparesNames_ok _
  | cons property rest ih =>
      simp only [readProperties, Traced.outcome_bind, Traced.outcome_liftM]
      apply (sparesNames_readProperty position property).bind
      intro result
      cases result with
      | inl entry =>
          simp only [Traced.outcome_bind, Traced.outcome_pure]
          exact ih.bind fun _ => sparesNames_ok _
      | inr warning =>
          simp only [Traced.outcome_bind, Traced.outcome_record, Traced.outcome_pure, ok_bind]
          exact ih.bind fun _ => sparesNames_ok _

theorem sparesNames_read (node : Json) (position : Int) :
    SparesNames (read node position).outcome := by
  simp only [read, Traced.outcome_bind, Traced.outcome_liftM]
  exact (sparesNames_properties node position).bind (sparesNames_readProperties position)

end MemberTable

/-! ## Class bodies -/

theorem MemberEntry.failsByLookUp_toAssignment (entry : MemberEntry) (object : Json) :
    FailsByLookUp (entry.toAssignment object) := by
  have accesses : FailsByLookUp (Node.propertyAccess object entry.key (.bool entry.computed)) := by
    unfold Node.propertyAccess
    split
    · exact failsByLookUp_ok _
    · exact (failsByLookUp_field _ _).bind fun _ => failsByLookUp_ok _
  exact accesses.bind fun _ => failsByLookUp_ok _

theorem StaticMembers.sparesNames_append (entries : List MemberEntry) (body : List Json) :
    SparesNames (append entries body).outcome := by
  simp only [append, Traced.outcome_bind, ClassifiedMembers.ofEntries_outcome,
    Traced.outcome_record, Traced.outcome_pure]
  exact (ClassifiedMembers.failsByLookUp_split _ _ _).sparesNames.bind fun _ => sparesNames_ok _

theorem StaticMembers.sparesNames_assignments (scope : Scope) (path : NamespacePath)
    (data : List MemberEntry) : SparesNames (assignments scope path data) :=
  sparesNames_mapM (fun entry => (entry.failsByLookUp_toAssignment _).sparesNames) data

theorem Node.sparesNames_constructorStatements (node : Json) :
    SparesNames (constructorStatements node) :=
  (Json.sparesNames_required _ _).bind fun _ =>
    (Json.sparesNames_required _ _).bind fun _ => Json.sparesNames_required _ _

namespace Placement

theorem initialisers_failure {data : List MemberEntry} {failure : Failure}
    (fails : (initialisers data).2 = some failure) : failure = .shape .noFields := by
  induction data with
  | nil => simp [initialisers] at fails
  | cons entry rest ih =>
      rw [initialisers] at fails
      split at fails
      · rename_i entryFailure assigns
        obtain rfl : entryFailure = failure := by simpa using fails
        exact entry.failsByLookUp_toAssignment _ _ assigns
      · exact ih fails

theorem complaint?_of_place {target : Target} {slot : ConstructorSlot} {data : List MemberEntry}
    {failure : Failure} (fails : (place target slot data).2 = some failure) :
    failure.complaint? ≠ some .invalidNamespace := by
  cases target with
  | es2017 =>
      cases slot with
      | within before node after => simp [place, declare] at fails
      | apart body node =>
          obtain rfl : Failure.constructorOutside = failure := by
            simpa [place, declare] using fails
          simp [Failure.complaint?]
  | es2015 =>
      have fails : (initialise slot.node data).2 = some failure := fails
      unfold initialise at fails
      split at fails
      · rename_i other reads
        obtain rfl : other = failure := by simpa using fails
        exact Node.sparesNames_constructorStatements _ _ reads
      · rw [initialisers_failure fails]
        simp [Failure.complaint?]
      · simp only at fails
        split at fails
        · simp at fails
        · obtain rfl : Failure.shape .notAList = failure := by simpa using fails
          simp [Failure.complaint?]

end Placement

namespace InstanceMembers

theorem sparesNames_finish (target : Target) (slot : ConstructorSlot) (methods : List Json)
    (data : List MemberEntry) : SparesNames (finish target slot methods data).members.outcome := by
  unfold finish
  split
  · exact sparesNames_ok _
  · simp only
    split
    · rename_i failure places
      exact sparesNames_error (Placement.complaint?_of_place places)
    · exact sparesNames_ok _

theorem sparesNames_add (options : Options) (produced derived : Bool) (entries : List MemberEntry)
    (body : List Json) :
    SparesNames (add options produced derived entries body).members.outcome := by
  cases plans : (plan options produced derived entries body).outcome with
  | error failure =>
      have planFails := (plan_eq_error_iff derived).mp plans
      rw [(add_of_planFails derived planFails).2, planFails.byLookUp]
      exact sparesNames_error (by simp [Failure.complaint?])
  | ok planned =>
      rcases planned with ⟨members, slot?⟩
      rw [(add_of_plan plans).2]
      cases slot? with
      | none => exact sparesNames_ok _
      | some slot => exact sparesNames_finish _ _ _ _

end InstanceMembers

namespace Conversion

/-! ## Calls -/

theorem sparesNames_arguments (parameters : Json) : SparesNames (Arguments.ofJson parameters) := by
  unfold Arguments.ofJson
  split
  · exact sparesNames_error (by simp [Failure.complaint?])
  refine (Json.sparesNames_length parameters).bind fun count => ?_
  split
  · exact sparesNames_error (by simp [Failure.complaint?])
  refine (Json.sparesNames_first parameters).bind fun name => ?_
  refine (Json.sparesNames_elements parameters).bind fun items => ?_
  split
  · exact sparesNames_ok _
  · exact sparesNames_ok _
  · exact sparesNames_error (by simp [Failure.complaint?])

theorem sparesNames_readStatics (statics : Option Json) :
    SparesNames (readStatics statics).outcome := by
  cases statics with
  | none => exact sparesNames_ok _
  | some node => exact MemberTable.sparesNames_read node 2

theorem sparesNames_extendShell {options : Options} (named : Succeeds options.extendedPath)
    (shell : ClassShell) (scope : Scope) :
    SparesNames (extendShell options shell scope).outcome := by
  unfold extendShell
  split
  · rcases named with ⟨path?, pathRead⟩
    simp only [Traced.outcome_bind, Traced.outcome_liftM, pathRead, ok_bind]
    cases path? with
    | none => exact sparesNames_ok _
    | some path =>
        rw [ClassShell.extend_some_outcome]
        exact sparesNames_ok _
  · exact sparesNames_ok _

/-- What remains of a conversion once its own namespace is read. -/
theorem sparesNames_ofParameters {options : Options} (named : Succeeds options.extendedPath)
    {parameters : Json}
    (names : ∀ arguments, Arguments.ofJson parameters = .ok arguments →
      namesClass arguments.name = true) :
    SparesNames (ofParameters options parameters).outcome := by
  simp only [ofParameters, Traced.outcome_bind, Traced.outcome_liftM]
  cases argumentsRead : Arguments.ofJson parameters with
  | error failure => exact sparesNames_error (sparesNames_arguments parameters _ argumentsRead)
  | ok arguments =>
      rcases namespaceOf_of_namesClass (names arguments argumentsRead) with
        ⟨text, nameRead, isDotted⟩
      rcases succeeds_parse isDotted with ⟨path, pathRead⟩
      simp only [ok_bind, nameRead, pathRead, Scope.resolve_outcome]
      refine (sparesNames_readStatics _).bind fun statics => ?_
      refine (MemberTable.sparesNames_read _ _).bind fun members => ?_
      refine (sparesNames_extendShell named _ _).bind fun extension => ?_
      refine (StaticMembers.sparesNames_append _ _).bind fun staticMembers => ?_
      refine (InstanceMembers.sparesNames_add _ _ _ _ _).bind fun _ => ?_
      exact (StaticMembers.sparesNames_assignments _ _ _).bind fun _ => sparesNames_ok _

theorem refuses_of_not_namesClass (options : Options) {parameters : Json} {arguments : Arguments}
    (argumentsRead : Arguments.ofJson parameters = .ok arguments)
    (misnames : namesClass arguments.name = false) :
    Refuses (ofParameters options parameters).outcome .invalidNamespace := by
  simp only [ofParameters, Traced.outcome_bind, Traced.outcome_liftM, argumentsRead, ok_bind]
  rcases namespaceOf_of_not_namesClass misnames with refused | ⟨text, nameRead, notDotted⟩
  · exact refused.bind _
  · rw [nameRead, ok_bind]
    exact (refuses_parse notDotted).bind _

/--
With a superclass that is named well or not at all, a call is refused for a
namespace exactly if its first argument holds no dotted name.
-/
theorem refuses_invalidNamespace_iff {options : Options} (named : Succeeds options.extendedPath)
    (parameters : Json) :
    Refuses (ofParameters options parameters).outcome .invalidNamespace ↔
      ∃ arguments, Arguments.ofJson parameters = .ok arguments ∧
        namesClass arguments.name = false := by
  constructor
  · rintro ⟨failure, fails, complaintIs⟩
    apply Classical.byContradiction
    intro noMisnamed
    refine sparesNames_ofParameters named ?_ failure fails complaintIs
    intro arguments argumentsRead
    cases names : namesClass arguments.name with
    | true => rfl
    | false => exact absurd ⟨arguments, argumentsRead, names⟩ noMisnamed
  · rintro ⟨arguments, argumentsRead, misnames⟩
    exact refuses_of_not_namesClass options argumentsRead misnames

end Conversion

end ClassLift

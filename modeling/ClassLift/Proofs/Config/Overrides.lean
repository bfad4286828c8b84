import ClassLift.Config.Overrides
import ClassLift.Proofs.Conversion.Naming
import ClassLift.Proofs.Text.Lower

/-!
# What overriding options leads to

Options are made of three layers: what is given, what lies below it, and the
defaults. `GivenOptions.laidOver` says which layer each option is taken from, and
`GivenOptions.IsRefused` why nothing may come of it. Options that were made once
are made again from themselves, and their superclass is named well, so that no
conversion can fail because of it: `GivenOptions.apply_laysOver`.
-/

namespace ClassLift

namespace Options

/-- The name of the superclass, without the blanks around it, has an empty segment. -/
structure Misnames (options : Options) (name : String) : Prop where
  isNamed : options.extendedNamespace.map Text.trimmed = some name
  notBlank : name ≠ ""
  hasGap : "" ∈ Text.pieces '.' name

theorem extendedPath_of_misnames {options : Options} {name : String}
    (misnames : options.Misnames name) :
    options.extendedPath = .error (.invalidNamespace (.str name) .emptySegment) := by
  rcases misnames with ⟨isNamed, notBlank, hasGap⟩
  rcases Option.map_eq_some_iff.mp isNamed with ⟨dotted, namespaceIs, rfl⟩
  have notRead : NamespacePath.parse (.str (Text.trimmed dotted)) =
      .error (.invalidNamespace (.str (Text.trimmed dotted)) .emptySegment) := by
    simp [NamespacePath.parse, notBlank, hasGap]
  simp only [extendedPath, namespaceIs, if_neg notBlank, notRead]
  rfl

theorem succeeds_extendedPath_of_not_misnames {options : Options}
    (names : ∀ name, ¬options.Misnames name) : Succeeds options.extendedPath := by
  -- the namespace is read in the same way whether the options ask for a superclass or not
  apply @Conversion.succeeds_extendedPath { options with extended := true } rfl
  rw [← Bool.not_eq_true]
  intro misnames
  simp only [Conversion.misnamesSuperclass, Bool.true_and, Option.any_eq_true, Bool.and_eq_true,
    decide_eq_true_eq] at misnames
  rcases misnames with ⟨dotted, namespaceIs, notBlank, notDotted⟩
  apply names (Text.trimmed dotted)
  refine ⟨by rw [namespaceIs]; rfl, notBlank, ?_⟩
  simpa [Conversion.isDottedName, notBlank] using notDotted

theorem validate_eq_ok_iff {options result : Options} :
    options.validate = .ok result ↔
      (∀ name, ¬options.Misnames name) ∧ options.constructorName ≠ "" ∧ result = options := by
  constructor
  · intro isValid
    unfold validate at isValid
    split at isValid
    · simp at isValid
    · rename_i path? pathRead
      split at isValid
      · simp at isValid
      · rename_i hasName
        refine ⟨?_, hasName, ?_⟩
        · intro name misnames
          simp [extendedPath_of_misnames misnames] at pathRead
        · simpa using isValid.symm
  · rintro ⟨names, hasName, rfl⟩
    rcases succeeds_extendedPath_of_not_misnames names with ⟨path?, pathRead⟩
    simp [validate, pathRead, hasName]

theorem validate_of_misnames {options : Options} {name : String}
    (misnames : options.Misnames name) :
    options.validate =
      .error (.invalidExtendedNamespace (.invalidNamespace (.str name) .emptySegment)) := by
  simp [validate, extendedPath_of_misnames misnames]

theorem validate_of_noConstructorName {options : Options}
    (names : ∀ name, ¬options.Misnames name) (noName : options.constructorName = "") :
    options.validate = .error .emptyConstructorName := by
  rcases succeeds_extendedPath_of_not_misnames names with ⟨path?, pathRead⟩
  simp [validate, pathRead, noName]

end Options

/-- What is given of the options; each of them may be left out. -/
structure GivenOptions where
  target : Option String
  constructorName : Option String
  extendedNamespace : Option String
  extended : Option Bool
  rootObject : Option String

namespace GivenOptions

def none : GivenOptions :=
  ⟨.none, .none, .none, .none, .none⟩

/-- A value that may be left out as a tree. -/
def handed {α : Type} (toJson : α → Json) (value? : Option α) : Json :=
  (value?.map toJson).getD .null

def overrides (given : GivenOptions) : Overrides where
  target := handed .str given.target
  constructorName := handed .str given.constructorName
  extendedNamespace := handed .str given.extendedNamespace
  extended := handed .bool given.extended
  rootObject := handed .str given.rootObject

/-- The target whose tag a text is, in any case. -/
def targetNamed? (tag : String) : Option Target :=
  Target.all.find? fun target => target.tag.toList = Text.lowered tag.toList

/-- The given options where there are any, and the ones below them elsewhere. -/
def laidOver (given : GivenOptions) (base : Options) : Options where
  constructorName := given.constructorName.getD base.constructorName
  extended := given.extended.getD (given.extendedNamespace.isSome || base.extended)
  extendedNamespace := given.extendedNamespace.or base.extendedNamespace
  target := (given.target.bind targetNamed?).getD base.target
  rootObject := (given.rootObject.filter (· ≠ "")).getD base.rootObject

/-- A tag is given that in lower case is the tag of no target. -/
def NamesNoTarget (given : GivenOptions) (tag : String) : Prop :=
  given.target = some tag ∧ ∀ target : Target, Text.lowered tag.toList ≠ target.tag.toList

/-- Why given options are refused over others; each reason only if those before it do not apply. -/
inductive IsRefused (given : GivenOptions) (base : Options) : ConfigFailure → Prop
  | target {tag : String} (namesNone : given.NamesNoTarget tag) :
      IsRefused given base (.unknownTarget tag)
  | superclass {name : String} (namesTarget : ∀ tag, ¬given.NamesNoTarget tag)
      (misnames : (given.laidOver base).Misnames name) :
      IsRefused given base
        (.invalidExtendedNamespace (.invalidNamespace (.str name) .emptySegment))
  | constructorName (namesTarget : ∀ tag, ¬given.NamesNoTarget tag)
      (names : ∀ name, ¬(given.laidOver base).Misnames name)
      (noName : (given.laidOver base).constructorName = "") :
      IsRefused given base .emptyConstructorName

/-! ## Targets -/

theorem targetNamed?_eq_some_iff {tag : String} {target : Target} :
    targetNamed? tag = some target ↔ Text.lowered tag.toList = target.tag.toList := by
  constructor
  · intro isFound
    have found := List.find?_some isFound
    exact (of_decide_eq_true found).symm
  · intro isTag
    unfold targetNamed?
    rw [isTag]
    cases target with
    | es2015 => rfl
    | es2017 => rfl

theorem targetNamed?_eq_none_iff {tag : String} :
    targetNamed? tag = Option.none ↔
      ∀ target : Target, Text.lowered tag.toList ≠ target.tag.toList := by
  rw [Option.eq_none_iff_forall_ne_some]
  constructor
  · intro unnamed target isTag
    exact unnamed target (targetNamed?_eq_some_iff.mpr isTag)
  · intro unnamed target isFound
    exact unnamed target (targetNamed?_eq_some_iff.mp isFound)

theorem targetNamed?_eq (tag : String) : targetNamed? tag = Target.ofTag? tag.toLower := by
  apply Option.ext
  intro target
  rw [targetNamed?_eq_some_iff, Text.lowered_eq_tag_iff]

theorem ofText_eq (tag : String) :
    Target.ofText tag = (targetNamed? tag).elim (.error (.unknownTarget tag)) .ok := by
  rw [targetNamed?_eq]
  unfold Target.ofText
  cases Target.ofTag? tag.toLower with
  | none => rfl
  | some target => rfl

/-! ## Single options -/

section

variable (key : String)

theorem override_text (given : Option String) (current : String) :
    Overrides.override (handed .str given) key SettingValue.checkText current =
      .ok (given.getD current) := by
  cases given with
  | none => rfl
  | some text => rfl

theorem override_optionalText (given current : Option String) :
    Overrides.override (handed .str given) key SettingValue.checkOptionalText current =
      .ok (given.or current) := by
  cases given with
  | none => rfl
  | some text => rfl

theorem override_truth (given : Option Bool) (current : Bool) :
    Overrides.override (handed .bool given) key SettingValue.checkTruth current =
      .ok (given.getD current) := by
  cases given with
  | none => rfl
  | some value => rfl

end

theorem extendedValue_overrides (given : GivenOptions) :
    given.overrides.extendedValue =
      handed .bool (given.extended.or (given.extendedNamespace.map fun _ => true)) := by
  rcases given with ⟨_, _, extendedNamespace, extended, _⟩
  cases extended with
  | none =>
      cases extendedNamespace with
      | none => rfl
      | some dotted => rfl
  | some value => rfl

theorem rootObjectValue_overrides (given : GivenOptions) :
    given.overrides.rootObjectValue = handed .str (given.rootObject.filter (· ≠ "")) := by
  rcases given with ⟨_, _, _, _, rootObject⟩
  cases rootObject with
  | none => rfl
  | some name =>
      by_cases isEmpty : name = ""
      · rw [isEmpty]
        rfl
      · simp [overrides, Overrides.rootObjectValue, handed, Json.isTruthy, Option.filter, isEmpty]

/-! ## All options -/

theorem merge_overrides (given : GivenOptions) (base : Options) (target : Target) :
    given.overrides.merge base target = .ok { given.laidOver base with target } := by
  have extendedIs : (given.extended.or (given.extendedNamespace.map fun _ => true)).getD
      base.extended = (given.laidOver base).extended := by
    unfold laidOver
    cases given.extended with
    | none => cases given.extendedNamespace <;> rfl
    | some value => rfl
  rw [Overrides.merge, extendedValue_overrides, rootObjectValue_overrides, override_truth,
    override_text, extendedIs]
  simp only [overrides, override_text, override_optionalText]
  rfl

/-- The target is read first, and the merged options are checked last. -/
theorem apply_overrides (given : GivenOptions) (base : Options) :
    given.overrides.apply base =
      given.target.elim (.ok base.target) Target.ofText >>= fun target =>
        Options.validate { given.laidOver base with target } := by
  simp only [Overrides.apply, merge_overrides]
  rcases given with ⟨target, _, _, _, _⟩
  cases target with
  | none => rfl
  | some tag => rfl

theorem apply_of_namesNoTarget {given : GivenOptions} {tag : String}
    (namesNone : given.NamesNoTarget tag) (base : Options) :
    given.overrides.apply base = .error (.unknownTarget tag) := by
  rcases namesNone with ⟨targetIs, namesNone⟩
  rw [apply_overrides, targetIs, Option.elim_some, ofText_eq,
    targetNamed?_eq_none_iff.mpr namesNone]
  rfl

theorem apply_of_namesTarget {given : GivenOptions}
    (namesTarget : ∀ tag, ¬given.NamesNoTarget tag) (base : Options) :
    given.overrides.apply base = (given.laidOver base).validate := by
  have targetRead : given.target.elim (.ok base.target) Target.ofText =
      .ok (given.laidOver base).target := by
    unfold laidOver
    cases targetIs : given.target with
    | none => rfl
    | some tag =>
        have isNamed : targetNamed? tag ≠ Option.none := by
          intro unnamed
          exact namesTarget tag ⟨targetIs, targetNamed?_eq_none_iff.mp unnamed⟩
        rcases Option.ne_none_iff_exists'.mp isNamed with ⟨target, named⟩
        simp [ofText_eq, named]
  rw [apply_overrides, targetRead]
  rfl

theorem apply_eq_ok_iff {given : GivenOptions} {base options : Options} :
    given.overrides.apply base = .ok options ↔
      (∀ tag, ¬given.NamesNoTarget tag) ∧ (∀ name, ¬(given.laidOver base).Misnames name) ∧
        (given.laidOver base).constructorName ≠ "" ∧ options = given.laidOver base := by
  constructor
  · intro applies
    have namesTarget : ∀ tag, ¬given.NamesNoTarget tag := by
      intro tag namesNone
      simp [apply_of_namesNoTarget namesNone base] at applies
    rw [apply_of_namesTarget namesTarget] at applies
    exact ⟨namesTarget, Options.validate_eq_ok_iff.mp applies⟩
  · rintro ⟨namesTarget, isValid⟩
    rw [apply_of_namesTarget namesTarget]
    exact Options.validate_eq_ok_iff.mpr isValid

theorem IsRefused.apply {given : GivenOptions} {base : Options} {failure : ConfigFailure}
    (isRefused : given.IsRefused base failure) : given.overrides.apply base = .error failure := by
  cases isRefused with
  | target namesNone => exact apply_of_namesNoTarget namesNone base
  | superclass namesTarget misnames =>
      rw [apply_of_namesTarget namesTarget]
      exact Options.validate_of_misnames misnames
  | constructorName namesTarget names noName =>
      rw [apply_of_namesTarget namesTarget]
      exact Options.validate_of_noConstructorName names noName

/-- Given options are refused for some reason, or for none and then they are laid over the base. -/
theorem isRefused_or_apply (given : GivenOptions) (base : Options) :
    (∃ failure, given.IsRefused base failure) ∨
      given.overrides.apply base = .ok (given.laidOver base) := by
  by_cases namesNone : ∃ tag, given.NamesNoTarget tag
  · rcases namesNone with ⟨tag, namesNone⟩
    exact .inl ⟨_, .target namesNone⟩
  have namesTarget : ∀ tag, ¬given.NamesNoTarget tag := not_exists.mp namesNone
  by_cases misnamed : ∃ name, (given.laidOver base).Misnames name
  · rcases misnamed with ⟨name, misnames⟩
    exact .inl ⟨_, .superclass namesTarget misnames⟩
  have names : ∀ name, ¬(given.laidOver base).Misnames name := not_exists.mp misnamed
  by_cases noName : (given.laidOver base).constructorName = ""
  · exact .inl ⟨_, .constructorName namesTarget names noName⟩
  · right
    exact apply_eq_ok_iff.mpr ⟨namesTarget, names, noName, rfl⟩

theorem apply_eq_error_iff {given : GivenOptions} {base : Options} {failure : ConfigFailure} :
    given.overrides.apply base = .error failure ↔ given.IsRefused base failure := by
  constructor
  · intro fails
    rcases isRefused_or_apply given base with ⟨other, isRefused⟩ | applies
    · rw [isRefused.apply, Except.error.injEq] at fails
      rwa [← fails]
    · simp [applies] at fails
  · exact IsRefused.apply

/-- Options are refused exactly if one of three things is wrong with them. -/
theorem exists_isRefused_iff {given : GivenOptions} {base : Options} :
    (∃ failure, given.IsRefused base failure) ↔
      (∃ tag, given.NamesNoTarget tag) ∨ (∃ name, (given.laidOver base).Misnames name) ∨
        (given.laidOver base).constructorName = "" := by
  constructor
  · rintro ⟨failure, isRefused⟩
    cases isRefused with
    | target namesNone => exact .inl ⟨_, namesNone⟩
    | superclass namesTarget misnames => exact .inr (.inl ⟨_, misnames⟩)
    | constructorName namesTarget names noName => exact .inr (.inr noName)
  · intro isWrong
    rcases isRefused_or_apply given base with isRefused | applies
    · exact isRefused
    · rcases apply_eq_ok_iff.mp applies with ⟨namesTarget, names, hasName, _⟩
      rcases isWrong with ⟨tag, namesNone⟩ | ⟨name, misnames⟩ | noName
      · exact absurd namesNone (namesTarget tag)
      · exact absurd misnames (names name)
      · exact absurd noName hasName

/-! ## Overriding again -/

theorem laidOver_laidOver (given : GivenOptions) (base : Options) :
    given.laidOver (given.laidOver base) = given.laidOver base := by
  simp only [laidOver, Options.mk.injEq]
  refine ⟨?_, ?_, ?_, ?_, ?_⟩
  · cases given.constructorName <;> rfl
  · cases given.extended <;> simp
  · cases given.extendedNamespace <;> rfl
  · cases given.target.bind targetNamed? <;> rfl
  · cases given.rootObject.filter (· ≠ "") <;> rfl

theorem apply_none_of_apply {given : GivenOptions} {base options : Options}
    (applies : given.overrides.apply base = .ok options) :
    none.overrides.apply options = .ok options := by
  rcases apply_eq_ok_iff.mp applies with ⟨_, names, hasName, rfl⟩
  have namesTarget : ∀ tag, ¬none.NamesNoTarget tag := by
    intro tag namesNone
    simp [NamesNoTarget, none] at namesNone
  exact apply_eq_ok_iff.mpr ⟨namesTarget, names, hasName, rfl⟩

theorem apply_again_of_apply {given : GivenOptions} {base options : Options}
    (applies : given.overrides.apply base = .ok options) :
    given.overrides.apply options = .ok options := by
  rcases apply_eq_ok_iff.mp applies with ⟨namesTarget, names, hasName, rfl⟩
  rw [apply_eq_ok_iff, laidOver_laidOver]
  exact ⟨namesTarget, names, hasName, rfl⟩

/--
Given options are refused for the first of three reasons that applies, or laid
over the base. Options that came out stay as they are if they are overridden by
nothing or by the same again, and a call converted with them is refused for a
namespace only because of its first argument.
-/
theorem apply_laysOver (base? : Option Options) (given : GivenOptions) :
    let base := base?.getD .default
    (∀ failure, given.overrides.apply base = .error failure ↔ given.IsRefused base failure) ∧
      ((∃ failure, given.overrides.apply base = .error failure) ↔
        (∃ tag, given.NamesNoTarget tag) ∨ (∃ name, (given.laidOver base).Misnames name) ∨
          (given.laidOver base).constructorName = "") ∧
      ∀ options, given.overrides.apply base = .ok options →
        options = given.laidOver base ∧
          none.overrides.apply options = .ok options ∧
          given.overrides.apply options = .ok options ∧
          ∀ parameters,
            Conversion.Refuses (Conversion.ofParameters options parameters).outcome
                .invalidNamespace ↔
              ∃ arguments, Conversion.Arguments.ofJson parameters = .ok arguments ∧
                Conversion.namesClass arguments.name = false := by
  intro base
  refine ⟨fun failure => apply_eq_error_iff, ?_, ?_⟩
  · simp only [apply_eq_error_iff]
    exact exists_isRefused_iff
  · intro options applies
    rcases apply_eq_ok_iff.mp applies with ⟨_, names, _, optionsAre⟩
    have named : Succeeds options.extendedPath := by
      rw [optionsAre]
      exact Options.succeeds_extendedPath_of_not_misnames names
    refine ⟨optionsAre, apply_none_of_apply applies, apply_again_of_apply applies, ?_⟩
    intro parameters
    exact Conversion.refuses_invalidNamespace_iff named parameters

end GivenOptions

end ClassLift

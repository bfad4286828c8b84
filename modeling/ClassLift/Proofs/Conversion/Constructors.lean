import ClassLift.Proofs.Conversion.Members

/-!
# How many constructors a class is read with

A class body is assembled with at most one method definition of kind
`constructor`. An engine asks for more than the kind: a method that is neither
static nor computed is the constructor of its class also if its key spells
`constructor`. The methods of a member table keep their keys, so a table can add
such a method beside the constructor that was taken from it or made up for its
data. `Conversion.constructors_counted` says how many constructors a class is
read with, and for which tables there is at most one.
-/

namespace ClassLift

namespace Node

/-- Whether a key spells a name, as an identifier or as a string. -/
def spells (name : String) (key : Json) : Bool :=
  (hasType "Identifier" key && (key.field? "name").any (·.isStr name)) ||
    (hasType "Literal" key && (key.field? "value").any (·.isStr name))

/-- Whether a flag of a node is set. -/
def isSet (flag : String) (node : Json) : Bool :=
  (node.field? flag).any (·.isTruthy)

/-- Whether an engine takes a member of a class body for the constructor of the class. -/
def readsAsConstructor (member : Json) : Bool :=
  hasType "MethodDefinition" member && !isSet "static" member && !isSet "computed" member &&
    ((member.field? "kind").any (·.isStr "constructor") ||
      (member.field? "key").any (spells "constructor"))

@[simp]
theorem readsAsConstructor_toField (entry : MemberEntry) :
    readsAsConstructor entry.toField = false :=
  rfl

/-- A method is read as the constructor for its key alone, as its kind never says so. -/
theorem readsAsConstructor_toMethod (entry : MemberEntry) (isStatic : Bool) :
    readsAsConstructor (entry.toMethod isStatic) = (!isStatic && entry.isNamed "constructor") := by
  have notByKind : (some entry.methodKind).any (·.isStr "constructor") = false :=
    isClassConstructor_toMethod entry isStatic
  have byParts : readsAsConstructor (entry.toMethod isStatic) =
      (!isStatic && !entry.computed && ((some entry.methodKind).any (·.isStr "constructor") ||
        spells "constructor" entry.key)) := rfl
  rw [byParts, notByKind, Bool.false_or, Bool.and_assoc]
  rfl

/-- Statements added to a member are no reason to read it otherwise. -/
@[simp]
theorem readsAsConstructor_appendStatements (member : Json) (added : List Json) :
    readsAsConstructor (appendStatements member added) = readsAsConstructor member := by
  have same : ∀ key, key ≠ "value" →
      (appendStatements member added).field? key = member.field? key :=
    fun key differ => field?_appendStatements differ member added
  simp only [readsAsConstructor, hasType, isSet, same "type" (by decide), same "static" (by decide),
    same "computed" (by decide), same "kind" (by decide), same "key" (by decide)]

@[simp]
theorem readsAsConstructor_initialised (target : Target) (member : Json)
    (data : List MemberEntry) :
    readsAsConstructor (Placement.initialised target member data) = readsAsConstructor member := by
  cases target with
  | es2015 => exact readsAsConstructor_appendStatements member _
  | es2017 => rfl

theorem countP_declaredFields (target : Target) (data : List MemberEntry) :
    (Placement.declaredFields target data).countP readsAsConstructor = 0 := by
  rw [List.countP_eq_zero]
  intro member isDeclared
  cases target with
  | es2015 => simp [Placement.declaredFields] at isDeclared
  | es2017 =>
      rcases List.mem_map.mp isDeclared with ⟨entry, _, rfl⟩
      simp

/-- Among static methods none is read as the constructor, whatever they are called. -/
theorem countP_staticMethods (entries : List MemberEntry) :
    (entries.map (·.toMethod true)).countP readsAsConstructor = 0 := by
  rw [List.countP_eq_zero]
  intro member isMethod
  rcases List.mem_map.mp isMethod with ⟨entry, _, rfl⟩
  simp [readsAsConstructor_toMethod]

theorem countP_methods (entries : List MemberEntry) :
    (entries.map (·.toMethod false)).countP readsAsConstructor =
      (entries.filter (·.isNamed "constructor")).length := by
  rw [List.countP_map, List.countP_eq_length_filter]
  congr 2
  funext entry
  simp [readsAsConstructor_toMethod]

end Node

namespace Conversion

namespace Arguments

variable (arguments : Arguments) (options : Options)

/-- The members that stay methods although they are called `constructor`. -/
def strayConstructors : List MemberEntry :=
  (arguments.methodEntries options).filter (·.isNamed "constructor")

/-- Whether the class gets a constructor: one of its table, or one made up for its data. -/
def makesConstructor : Bool :=
  (arguments.constructorEntry options).isSome || !arguments.dataEntries.isEmpty

theorem length_bareConstructor :
    (arguments.bareConstructor options).toList.length =
      (arguments.makesConstructor options).toNat := by
  unfold bareConstructor makesConstructor
  cases taken : arguments.constructorEntry options with
  | some entry => rfl
  | none =>
      by_cases noData : arguments.dataEntries = []
      · simp [noData]
      · have hasData : arguments.dataEntries.isEmpty = false := by simpa using noData
        simp [noData, hasData]

theorem readsAsConstructor_bareConstructor {node : Json}
    (bareIs : arguments.bareConstructor options = some node) :
    Node.readsAsConstructor node = true := by
  unfold bareConstructor at bareIs
  split at bareIs
  · rw [← Option.some.inj bareIs]
    rfl
  · split at bareIs
    · simp at bareIs
    · rw [← Option.some.inj bareIs]
      rfl

theorem countP_bareConstructor (data : List MemberEntry) :
    (((arguments.bareConstructor options).map
        (Placement.initialised options.target · data)).toList).countP Node.readsAsConstructor =
      (arguments.makesConstructor options).toNat := by
  rw [← length_bareConstructor]
  cases bareIs : arguments.bareConstructor options with
  | none => rfl
  | some node => simp [arguments.readsAsConstructor_bareConstructor options bareIs]

end Arguments

/-- The members of a class that are read as its constructor are those it was given and stray ones. -/
theorem Stages.countP_readsAsConstructor {options : Options} {parameters : Json}
    (stages : Stages options parameters) {result : InstanceMembers}
    (adds : stages.addition.members.outcome = .ok result) :
    stages.addition.body.countP Node.readsAsConstructor =
      (stages.arguments.makesConstructor options).toNat +
        (stages.arguments.strayConstructors options).length := by
  rw [(stages.addition_body_eq adds).1]
  simp only [List.countP_append, Node.countP_staticMethods, Node.countP_declaredFields,
    Node.countP_methods, Arguments.countP_bareConstructor, Nat.zero_add]
  rfl

/--
A class is read with the constructor it was given and with every stray one. So it
has at most one exactly if there is no stray one, or only one and no other.
-/
theorem constructors_counted {options : Options} {parameters : Json} {conversion : Conversion}
    (converts : (ofParameters options parameters).outcome = .ok conversion) :
    ∃ (arguments : Arguments) (classBody trailing : List Json),
      parameters = .arr (arguments.name :: arguments.statics.toList ++ [arguments.members]) ∧
        conversion.statements = Layout.opening options conversion.path.segments ++
          [Layout.classStatement options conversion.path classBody] ++ trailing ∧
        classBody.countP Node.readsAsConstructor =
          (arguments.makesConstructor options).toNat +
            (arguments.strayConstructors options).length ∧
        (classBody.countP Node.readsAsConstructor ≤ 1 ↔
          arguments.strayConstructors options = [] ∨
            (arguments.makesConstructor options = false ∧
              (arguments.strayConstructors options).length = 1)) := by
  rcases exists_stages converts with ⟨stages, _, adds, rfl⟩
  have counted := stages.countP_readsAsConstructor adds
  refine ⟨stages.arguments, stages.addition.body, stages.trailing, stages.parameters_eq.1, ?_,
    counted, ?_⟩
  · rw [Stages.conversion, stages.opening_eq, stages.classStatement_eq]
  · rw [counted, ← List.length_eq_zero_iff]
    cases stages.arguments.makesConstructor options with
    | false =>
        simp only [Bool.toNat_false, true_and]
        omega
    | true =>
        simp only [Bool.toNat_true, Bool.true_eq_false, false_and, or_false]
        omega

theorem constructors_counted_sampleCall :
    ∃ conversion, (ofParameters sampleOptions sampleCall).outcome = .ok conversion ∧
      ∃ (arguments : Arguments) (classBody trailing : List Json),
        sampleCall = .arr (arguments.name :: arguments.statics.toList ++ [arguments.members]) ∧
          conversion.statements = Layout.opening sampleOptions conversion.path.segments ++
            [Layout.classStatement sampleOptions conversion.path classBody] ++ trailing ∧
          classBody.countP Node.readsAsConstructor =
            (arguments.makesConstructor sampleOptions).toNat +
              (arguments.strayConstructors sampleOptions).length ∧
          (classBody.countP Node.readsAsConstructor ≤ 1 ↔
            arguments.strayConstructors sampleOptions = [] ∨
              (arguments.makesConstructor sampleOptions = false ∧
                (arguments.strayConstructors sampleOptions).length = 1)) :=
  ⟨_, rfl, constructors_counted rfl⟩

/-- A call whose table has data and a function called `constructor`. -/
def strayCall : Json :=
  let property (name : String) (value : Json) : Json :=
    Node.ofType "Property" [("key", Node.identifier (.str name)), ("value", value)]
  let function :=
    Node.functionExpression .null .null .null (.bool false) (.bool false) (.bool false)
  .arr [Node.literal (.str "Button"),
    Node.ofType "ObjectExpression" [("properties",
      .arr [property "constructor" function, property "label" (Node.literal (.str "Ok"))])]]

/-- The class of that call is read with two constructors. -/
theorem constructors_counted_strayCall :
    ∃ conversion classBody, (ofParameters .default strayCall).outcome = .ok conversion ∧
      conversion.statements = [Layout.classStatement .default conversion.path classBody] ∧
      classBody.countP Node.readsAsConstructor = 2 :=
  ⟨_, _, rfl, rfl, by decide⟩

end Conversion

end ClassLift

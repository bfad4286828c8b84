import ClassLift.Callee
import ClassLift.Proofs.Member.Shape

/-!
# Which callees are recognised

A callee is compared with a list of names from its end: the last name against the
outermost access, and so on inwards, until one name is left for an identifier.
`Node.IsPlainChain` says from the other side what the chain of some names is: an
identifier, to which one access by a plain name after the other is added. A node is
recognised exactly if it is the chain of the names, and it is the chain of no other
names, so nothing may be missing or left over at either end.
-/

namespace ClassLift.Node

/-- Whether a node is an identifier with the given name. -/
def isNamed (name : String) (node : Json) : Bool :=
  hasType "Identifier" node && (node.field? "name").any (·.isStr name)

/-- Whether a node accesses a member of its object without computing the name of the member. -/
def isPlainAccess (node : Json) : Bool :=
  hasType "MemberExpression" node && !(node.field? "computed").any (·.isTruthy)

/-- A field of a node, null if it is not there. -/
def link (key : String) (node : Json) : Json :=
  (node.field? key).getD .null

/-- The chain `a.b.c` of the names `a`, `b` and `c`. -/
inductive IsPlainChain : List String → Json → Prop where
  | identifier {node : Json} {name : String} (named : isNamed name node = true) :
      IsPlainChain [name] node
  | access {node : Json} {earlier : List String} {name : String}
      (isAccess : isPlainAccess node = true)
      (named : isNamed name (link "property" node) = true)
      (isChain : IsPlainChain earlier (link "object" node)) :
      IsPlainChain (earlier ++ [name]) node

/-- Whether a value is null or an object. -/
def isNodeOrNull (value : Json) : Bool :=
  value = .null || value.isObject

/-- Whether all that a chain of the given length leads through is null or an object. -/
def hasLinks : (length : Nat) → Json → Bool
  | 0, _ => true
  | length + 1, node =>
      isNodeOrNull node && isNodeOrNull (link "property" node) &&
        hasLinks length (link "object" node)

/-- Two nodes that differ at most in fields that no chain is read from. -/
inductive SameLinks : Json → Json → Prop where
  | same (node : Json) : SameLinks node node
  | nodes {fields others : List (String × Json)}
      (sameFields : ∀ key ∈ ["type", "name", "computed"],
        (Json.obj fields).field? key = (Json.obj others).field? key)
      (properties : SameLinks (link "property" (.obj fields)) (link "property" (.obj others)))
      (objects : SameLinks (link "object" (.obj fields)) (link "object" (.obj others))) :
      SameLinks (.obj fields) (.obj others)

/-! ## One link -/

theorem exists_fields_of_hasType {type : String} {node : Json} (typed : hasType type node = true) :
    ∃ fields, node = .obj fields := by
  cases node with
  | obj fields => exact ⟨fields, rfl⟩
  | null | bool | int | float | str | arr => simp [hasType, Json.field?] at typed

theorem field_obj (fields : List (String × Json)) (key : String) :
    (Json.obj fields).field key = .ok (link key (.obj fields)) :=
  rfl

theorem isStr_link (key text : String) (node : Json) :
    (link key node).isStr text = (node.field? key).any (·.isStr text) :=
  Json.isStr_getD_null text _

theorem isTruthy_link (key : String) (node : Json) :
    (link key node).isTruthy = (node.field? key).any (·.isTruthy) := by
  unfold link
  cases node.field? key <;> rfl

theorem isIdentifier_obj (fields : List (String × Json)) (name : String) :
    isIdentifier (.obj fields) name = .ok (isNamed name (.obj fields)) := by
  simp only [isIdentifier, field_obj, ok_bind, isStr_link, isNamed, hasType]
  cases ((Json.obj fields).field? "type").any (·.isStr "Identifier") <;> rfl

/-- A name on its own is compared with an identifier. -/
theorem isChainBackwards_obj_singleton (fields : List (String × Json)) (name : String) :
    isChainBackwards (.obj fields) [name] = .ok (isNamed name (.obj fields)) := by
  rw [isChainBackwards, isIdentifier_obj]
  -- An object without fields is not looked at, but it would not be an identifier either.
  cases fields with
  | nil => rfl
  | cons field rest => rfl

theorem accessesMember_obj (fields : List (String × Json)) (name : String) :
    accessesMember (.obj fields) name =
      if isPlainAccess (.obj fields) then
        isChainBackwards (link "property" (.obj fields)) [name]
      else .ok false := by
  simp only [accessesMember, field_obj, ok_bind, isStr_link, isTruthy_link "computed",
    isPlainAccess, hasType]
  by_cases isMember : ((Json.obj fields).field? "type").any (·.isStr "MemberExpression") = true
  · by_cases isComputed : ((Json.obj fields).field? "computed").any (·.isTruthy) = true
    · simp [isMember, isComputed, pure, Except.pure]
    · simp only [isMember, isComputed]
      rfl
  · simp [isMember, pure, Except.pure]

/-- The last name is compared with the outermost access, and the others with its object. -/
theorem isChainBackwards_obj_cons (fields : List (String × Json)) (name next : String)
    (earlier : List String) :
    isChainBackwards (.obj fields) (name :: next :: earlier) =
      if isPlainAccess (.obj fields) then do
        if ← isChainBackwards (link "property" (.obj fields)) [name] then
          isChainBackwards (link "object" (.obj fields)) (next :: earlier)
        else return false
      else .ok false := by
  have byMember : isChainBackwards (.obj fields) (name :: next :: earlier) =
      if (Json.obj fields).isTruthy then do
        if ← accessesMember (.obj fields) name then
          isChainBackwards (link "object" (.obj fields)) (next :: earlier)
        else return false
      else .ok false := rfl
  rw [byMember, accessesMember_obj]
  cases fields with
  | nil => rfl
  | cons field rest =>
      have isThere : (Json.obj (field :: rest)).isTruthy = true := rfl
      rw [if_pos isThere]
      split
      · rfl
      · rfl

/-! ## Chains -/

namespace IsPlainChain

theorem ne_nil {names : List String} {node : Json} (isChain : IsPlainChain names node) :
    names ≠ [] := by
  cases isChain with
  | identifier named => simp
  | access isAccess named isChain => simp

theorem singleton_iff {name : String} {node : Json} :
    IsPlainChain [name] node ↔ isNamed name node = true := by
  constructor
  · generalize namesAre : [name] = names
    intro isChain
    cases isChain with
    | identifier named =>
        obtain rfl : name = _ := List.singleton_inj.mp namesAre
        exact named
    | access isAccess named isChain =>
        have noneEarlier := (List.append_eq_singleton_iff.mp namesAre.symm).resolve_right
          fun split => by simp at split
        exact absurd noneEarlier.1 isChain.ne_nil
  · exact .identifier

theorem concat_iff {earlier : List String} {name : String} {node : Json}
    (notEmpty : earlier ≠ []) :
    IsPlainChain (earlier ++ [name]) node ↔
      isPlainAccess node = true ∧ isNamed name (link "property" node) = true ∧
        IsPlainChain earlier (link "object" node) := by
  constructor
  · generalize namesAre : earlier ++ [name] = names
    intro isChain
    cases isChain with
    | identifier named =>
        have noneEarlier := (List.append_eq_singleton_iff.mp namesAre).resolve_right
          fun split => by simp at split
        exact absurd noneEarlier.1 notEmpty
    | access isAccess named isChain =>
        obtain ⟨rfl, sameName⟩ := List.append_inj' namesAre rfl
        obtain rfl := List.singleton_inj.mp sameName
        exact ⟨isAccess, named, isChain⟩
  · rintro ⟨isAccess, named, isChain⟩
    exact .access isAccess named isChain

end IsPlainChain

theorem isNamed_unique {name other : String} {node : Json} (named : isNamed name node = true)
    (alsoNamed : isNamed other node = true) : name = other := by
  simp only [isNamed, Bool.and_eq_true, Option.any_eq_true, Json.isStr_iff] at named alsoNamed
  rcases named with ⟨_, found, isFound, rfl⟩
  rcases alsoNamed with ⟨_, alsoFound, isAlsoFound, rfl⟩
  simpa [isFound] using isAlsoFound

theorem isPlainAccess_of_isNamed {name : String} {node : Json} (named : isNamed name node = true) :
    isPlainAccess node = false := by
  simp only [isNamed, hasType, Bool.and_eq_true, Option.any_eq_true, Json.isStr_iff] at named
  rcases named with ⟨⟨type, typeIs, rfl⟩, _⟩
  simp [isPlainAccess, hasType, typeIs, Json.isStr]

/-- A node is the chain of one list of names at most. -/
theorem IsPlainChain.unique {names others : List String} {node : Json}
    (isChain : IsPlainChain names node) (alsoChain : IsPlainChain others node) :
    names = others := by
  induction isChain generalizing others with
  | identifier named =>
      cases alsoChain with
      | identifier alsoNamed => rw [isNamed_unique named alsoNamed]
      | access isAccess _ _ => simp [isPlainAccess_of_isNamed named] at isAccess
  | access isAccess named isChain ih =>
      cases alsoChain with
      | identifier alsoNamed => simp [isPlainAccess_of_isNamed alsoNamed] at isAccess
      | access _ alsoNamed alsoChain => rw [ih alsoChain, isNamed_unique named alsoNamed]

theorem isNamed_identifier (name : String) : isNamed name (identifier (.str name)) = true := by
  change (name == name) = true
  exact beq_self_eq_true name

/-- Accesses by further names continue a chain. -/
theorem IsPlainChain.memberChain {names : List String} {object : Json}
    (isChain : IsPlainChain names object) (further : List String) :
    IsPlainChain (names ++ further) (memberChain object (further.map .str)) := by
  induction further generalizing names object with
  | nil => simpa [Node.memberChain] using isChain
  | cons name rest ih =>
      have longer : IsPlainChain (names ++ [name]) (dot object (.str name)) :=
        .access rfl (isNamed_identifier name) isChain
      have extended := ih longer
      rw [List.append_assoc, List.singleton_append] at extended
      exact extended

theorem isPlainChain_memberChain (first : String) (rest : List String) :
    IsPlainChain (first :: rest) (memberChain (identifier (.str first)) (rest.map .str)) :=
  (IsPlainChain.identifier (isNamed_identifier first)).memberChain rest

/-! ## Recognition -/

theorem isChainBackwards_null (names : List String) : isChainBackwards .null names = .ok false := by
  rcases names with _ | ⟨name, _ | ⟨next, earlier⟩⟩ <;> rfl

/-- What is recognised is an object. -/
theorem exists_fields_of_isChainBackwards {node : Json} {names : List String}
    (recognised : isChainBackwards node names = .ok true) : ∃ fields, node = .obj fields := by
  cases node with
  | obj fields => exact ⟨fields, rfl⟩
  | null => simp [isChainBackwards_null] at recognised
  | bool | int | float | str | arr =>
      rcases names with _ | ⟨name, _ | ⟨next, earlier⟩⟩
      · simp [isChainBackwards] at recognised
      · simp only [isChainBackwards, isIdentifier, Json.field, error_bind] at recognised
        split at recognised <;> simp at recognised
      · simp only [isChainBackwards, accessesMember, Json.field, error_bind] at recognised
        split at recognised <;> simp at recognised

theorem isChainBackwards_singleton_iff {node : Json} {name : String} :
    isChainBackwards node [name] = .ok true ↔ isNamed name node = true := by
  constructor
  · intro recognised
    rcases exists_fields_of_isChainBackwards recognised with ⟨fields, rfl⟩
    simpa [isChainBackwards_obj_singleton] using recognised
  · intro named
    have typed : hasType "Identifier" node = true := by
      simp only [isNamed, Bool.and_eq_true] at named
      exact named.1
    rcases exists_fields_of_hasType typed with ⟨fields, rfl⟩
    rw [isChainBackwards_obj_singleton, named]

theorem isChainBackwards_iff {node : Json} {name : String} {earlier : List String} :
    isChainBackwards node (name :: earlier) = .ok true ↔
      IsPlainChain (earlier.reverse ++ [name]) node := by
  -- The induction goes inwards from the last name, as the comparison does.
  induction earlier generalizing node name with
  | nil => rw [isChainBackwards_singleton_iff, List.reverse_nil, List.nil_append,
      IsPlainChain.singleton_iff]
  | cons next earlier ih =>
      rw [IsPlainChain.concat_iff (by simp), List.reverse_cons, ← ih,
        ← isChainBackwards_singleton_iff]
      constructor
      · intro recognised
        rcases exists_fields_of_isChainBackwards recognised with ⟨fields, rfl⟩
        rw [isChainBackwards_obj_cons] at recognised
        split at recognised
        · rename_i isAccess
          rcases bind_eq_ok_iff.mp recognised with ⟨named, namedIs, recognised⟩
          cases named with
          | true => exact ⟨isAccess, namedIs, recognised⟩
          | false => simp [pure_eq_ok_iff] at recognised
        · simp at recognised
      · rintro ⟨isAccess, named, recognised⟩
        have typed : hasType "MemberExpression" node = true := by
          simp only [isPlainAccess, Bool.and_eq_true] at isAccess
          exact isAccess.1
        rcases exists_fields_of_hasType typed with ⟨fields, rfl⟩
        rw [isChainBackwards_obj_cons, if_pos isAccess, named, ok_bind]
        exact recognised

theorem isChain_eq_true_iff {node : Json} {names : List String} (notEmpty : names ≠ []) :
    isChain node names = .ok true ↔ IsPlainChain names node := by
  rcases List.eq_nil_or_concat names with isEmpty | ⟨earlier, name, rfl⟩
  · exact absurd isEmpty notEmpty
  · rw [List.concat_eq_append, isChain, List.reverse_append, List.reverse_singleton,
      List.singleton_append, isChainBackwards_iff, List.reverse_reverse]

/-! ## Answers -/

theorem hasLinks_null (length : Nat) : hasLinks length .null = true := by
  induction length with
  | zero => rfl
  | succ length ih => simpa [hasLinks, isNodeOrNull, link, Json.field?] using ih

theorem succeeds_isChainBackwards_singleton {node : Json} (isThere : isNodeOrNull node = true)
    (name : String) : Succeeds (isChainBackwards node [name]) := by
  simp only [isNodeOrNull, Bool.or_eq_true, decide_eq_true_eq, Json.isObject_iff] at isThere
  rcases isThere with rfl | ⟨fields, rfl⟩
  · exact succeeds_ok _
  · rw [isChainBackwards_obj_singleton]
    exact succeeds_ok _

theorem succeeds_isChainBackwards {node : Json} {names : List String}
    (linked : hasLinks names.length node = true) : Succeeds (isChainBackwards node names) := by
  induction names generalizing node with
  | nil => exact succeeds_ok _
  | cons name earlier ih =>
      simp only [List.length_cons, hasLinks, Bool.and_eq_true] at linked
      rcases linked with ⟨⟨isThere, propertyIsThere⟩, objectLinked⟩
      cases earlier with
      | nil => exact succeeds_isChainBackwards_singleton isThere name
      | cons next earlier =>
          simp only [isNodeOrNull, Bool.or_eq_true, decide_eq_true_eq,
            Json.isObject_iff] at isThere
          rcases isThere with rfl | ⟨fields, rfl⟩
          · rw [isChainBackwards_null]
            exact succeeds_ok _
          · rw [isChainBackwards_obj_cons]
            split
            · refine (succeeds_isChainBackwards_singleton propertyIsThere name).bind ?_
              intro named
              cases named with
              | true => exact ih objectLinked
              | false => exact succeeds_ok _
            · exact succeeds_ok _

theorem hasLinks_memberChain {object : Json} (linked : ∀ length, hasLinks length object = true)
    (names : List Json) (length : Nat) : hasLinks length (memberChain object names) = true := by
  induction names generalizing object length with
  | nil => exact linked length
  | cons name rest ih =>
      apply ih
      intro length
      cases length with
      | zero => rfl
      | succ length =>
          have objectIs : link "object" (dot object name) = object := rfl
          have propertyIs : link "property" (dot object name) = identifier name := rfl
          rw [hasLinks, objectIs, propertyIs, linked length]
          rfl

theorem hasLinks_identifier (name : Json) (length : Nat) :
    hasLinks length (identifier name) = true := by
  cases length with
  | zero => rfl
  | succ length =>
      have objectIs : link "object" (identifier name) = .null := rfl
      have propertyIs : link "property" (identifier name) = .null := rfl
      rw [hasLinks, objectIs, propertyIs, hasLinks_null]
      rfl

/-- The chain that is built from names is recognised by these names alone. -/
theorem isChain_memberChain (first : String) (rest : List String) {names : List String}
    (notEmpty : names ≠ []) :
    isChain (memberChain (identifier (.str first)) (rest.map .str)) names =
      .ok (decide (first :: rest = names)) := by
  have linked := hasLinks_memberChain (hasLinks_identifier (.str first)) (rest.map .str)
    names.reverse.length
  rcases succeeds_isChainBackwards linked with ⟨answer, answers⟩
  have recognised_iff : answer = true ↔ first :: rest = names := by
    rw [← Except.ok.injEq (ε := Failure), ← answers, ← isChain, isChain_eq_true_iff notEmpty]
    constructor
    · exact (isPlainChain_memberChain first rest).unique
    · rintro rfl
      exact isPlainChain_memberChain first rest
  rw [isChain, answers, Except.ok.injEq, Bool.eq_iff_iff, recognised_iff, decide_eq_true_iff]

/-! ## Fields that do not matter -/

theorem SameLinks.singleton {node other : Json} (same : SameLinks node other) (name : String) :
    isChainBackwards node [name] = isChainBackwards other [name] := by
  cases same with
  | same node => rfl
  | nodes sameFields properties objects =>
      simp only [isChainBackwards_obj_singleton, isNamed, hasType, sameFields "type" (by simp),
        sameFields "name" (by simp)]

theorem SameLinks.isChainBackwards_eq {node other : Json} (same : SameLinks node other)
    (names : List String) : isChainBackwards node names = isChainBackwards other names := by
  induction names generalizing node other with
  | nil => rfl
  | cons name earlier ih =>
      cases earlier with
      | nil => exact same.singleton name
      | cons next earlier =>
          cases same with
          | same node => rfl
          | @nodes fields others sameFields properties objects =>
              have sameAccess : isPlainAccess (.obj fields) = isPlainAccess (.obj others) := by
                simp only [isPlainAccess, hasType, sameFields "type" (by simp),
                  sameFields "computed" (by simp)]
              rw [isChainBackwards_obj_cons, isChainBackwards_obj_cons, properties.singleton,
                ih objects, sameAccess]

/--
A node is recognised by names exactly if it is their chain. There is an answer for
every node whose links are nodes, it depends on no other fields, and for the chain
of some names it tells if these are the same names.
-/
theorem isChain_recognises {names : List String} (notEmpty : names ≠ []) :
    (∀ node, isChain node names = .ok true ↔ IsPlainChain names node) ∧
      (∀ node, hasLinks names.length node = true → Succeeds (isChain node names)) ∧
      (∀ node other, SameLinks node other → isChain node names = isChain other names) ∧
      ∀ first rest, isChain (memberChain (identifier (.str first)) (rest.map .str)) names =
        .ok (decide (first :: rest = names)) := by
  refine ⟨fun _ => isChain_eq_true_iff notEmpty, ?_, ?_, ?_⟩
  · intro node linked
    apply succeeds_isChainBackwards
    rwa [List.length_reverse]
  · intro node other same
    exact same.isChainBackwards_eq names.reverse
  · intro first rest
    exact isChain_memberChain first rest notEmpty

/-- Of `$.Class`, `$[Class]` and `window.$.Class` the first one is recognised. -/
theorem isChain_recognises_classCallee :
    IsPlainChain ["$", "Class"] (dot (identifier (.str "$")) (.str "Class")) ∧
      ¬IsPlainChain ["$", "Class"]
        (member (identifier (.str "$")) (identifier (.str "Class")) (.bool true)) ∧
      isChain (memberChain (identifier (.str "window")) [.str "$", .str "Class"])
        ["$", "Class"] = .ok false := by
  have notEmpty : ["$", "Class"] ≠ [] := by decide
  rcases isChain_recognises notEmpty with ⟨recognised, _, _, byNames⟩
  refine ⟨(recognised _).mp rfl, ?_, byNames "window" ["$", "Class"]⟩
  rw [← recognised]
  exact nofun

end ClassLift.Node

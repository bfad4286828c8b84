import ClassLift.Proofs.Files
import ClassLift.Proofs.Json.Lexing
import ClassLift.Proofs.Tree.Parts

/-!
# A tree that is written can be read back

The text of a tree is read as that tree, on one line or indented. Two things are
left out: numbers with a fraction part, and objects with a key twice, of which
the reader keeps one field only.

The reader hands a complete value to the container around it. So the text of a
tree leads from where a value may start to where the tree is complete, whatever
containers are open and whatever follows. This is proved along the tree; for the
items of a list and the fields of an object it is proved one after the other,
with those that are done as the state.
-/

namespace ClassLift

namespace Json

/-- A tree without numbers that have a fraction part, in whose objects no key stands twice. -/
inductive IsExact : Json → Prop where
  | null : IsExact .null
  | bool (value : Bool) : IsExact (.bool value)
  | int (value : Int) : IsExact (.int value)
  | str (text : String) : IsExact (.str text)
  | arr {items : List Json} (areExact : ∀ item ∈ items, IsExact item) : IsExact (.arr items)
  | obj {fields : List (String × Json)} (distinct : (fields.map Prod.fst).Nodup)
      (areExact : ∀ field ∈ fields, IsExact field.2) : IsExact (.obj fields)

/-! ## Numbers inside a tree -/

/-- Whether a tree is the other one or stands somewhere inside it. -/
inductive Occurs (inner : Json) : Json → Prop where
  | here : Occurs inner inner
  | inside {tree part : Json} (isPart : part ∈ tree.parts) (occurs : Occurs inner part) :
      Occurs inner tree

theorem isStorable_iff {value : Int} :
    isStorable value = true ↔ -2 ^ 63 ≤ value ∧ value < 2 ^ 64 := by
  simp [isStorable]

theorem itemsStorable_iff {items : List Json} :
    itemsStorable items = true ↔ ∀ item ∈ items, item.hasStorableNumbers = true := by
  induction items with
  | nil => simp [itemsStorable]
  | cons item rest ih => simp [itemsStorable, ih]

theorem fieldsStorable_iff {fields : List (String × Json)} :
    fieldsStorable fields = true ↔ ∀ field ∈ fields, field.2.hasStorableNumbers = true := by
  induction fields with
  | nil => simp [fieldsStorable]
  | cons field rest ih => simp [fieldsStorable, ih]

theorem hasStorableNumbers_iff_parts {tree : Json} :
    tree.hasStorableNumbers = true ↔
      (∀ value, tree = .int value → isStorable value = true) ∧
        ∀ part ∈ tree.parts, part.hasStorableNumbers = true := by
  cases tree with
  | arr items => simp [hasStorableNumbers, parts, itemsStorable_iff]
  | obj fields =>
      simp only [hasStorableNumbers, fieldsStorable_iff, parts, fieldValues, List.forall_mem_map]
      simp
  | null | bool | int | float | str => simp [hasStorableNumbers, parts]

theorem hasStorableNumbers_iff {tree : Json} :
    tree.hasStorableNumbers = true ↔
      ∀ value, Occurs (.int value) tree → isStorable value = true := by
  constructor
  · intro storable value occurs
    induction occurs with
    | here => exact storable
    | inside isPart _ ih => exact ih ((hasStorableNumbers_iff_parts.mp storable).2 _ isPart)
  · intro storable
    induction tree using partsInduction with
    | step tree ih =>
        apply hasStorableNumbers_iff_parts.mpr
        constructor
        · rintro value rfl
          exact storable value .here
        · intro part isPart
          exact ih part isPart fun value occurs => storable value (.inside isPart occurs)

/-! ## Values and what is put together from them -/

theorem setField_of_notMem {key : String} {value : Json} {fields : List (String × Json)}
    (isNew : key ∉ fields.map Prod.fst) : setField key value fields = fields ++ [(key, value)] := by
  induction fields with
  | nil => rfl
  | cons field rest ih =>
      rcases field with ⟨otherKey, other⟩
      rw [List.map_cons, List.mem_cons, not_or] at isNew
      rw [setField, if_neg (Ne.symm isNew.1), ih isNew.2, List.cons_append]

/-- Whether the reader takes the next token for the start of a value. -/
def Awaiting.IsValue (awaiting : Awaiting) : Prop :=
  awaiting = .value ∨ awaiting = .firstItem

theorem Assembly.step?_of_isValue {stack : List Frame} {awaiting : Awaiting} {token : Token}
    (isValue : awaiting.IsValue) (notClosing : token ≠ .closeList) :
    Assembly.step? fileLimits ⟨stack, awaiting⟩ token = Assembly.begin? fileLimits stack token := by
  rcases isValue with rfl | rfl
  · rfl
  · rcases stack with _ | ⟨_ | _, outer⟩
    · rfl
    · cases token with
      | closeList => exact absurd rfl notClosing
      | openList | openObject | closeObject | comma | colon | null | bool | str | number => rfl
    · rfl

/-- A container is opened if there are not too many around it. -/
theorem Assembly.opened?_eq {stack : List Frame} (fits : stack.length ≤ 1024)
    (awaiting : Awaiting) : opened? fileLimits stack awaiting = some ⟨stack, awaiting⟩ :=
  if_pos fits

/-- Wherever a value may start, the text of the tree is read as the tree. -/
def IsReadBack (tree : Json) : Prop :=
  ∀ (indent : Bool) (level : Nat) (tail : List Char) (stack : List Frame) (awaiting : Awaiting),
    awaiting.IsValue → stack.length + tree.depth ≤ 1024 → EndsToken tail →
      resume? .between ⟨stack, awaiting⟩ (write indent level tree tail) =
        resume? .between (Assembly.complete tree stack) tail

theorem isReadBack_word {tree : Json} (seen : List Char) (token : Token)
    (isWritten : ∀ indent level tail assembly, resume? .between assembly
      (write indent level tree tail) = resume? (.word seen) assembly tail)
    (finishes : Token.finish? (.word seen) = some [token]) (notClosing : token ≠ .closeList)
    (begins : ∀ stack, Assembly.begin? fileLimits stack token =
      some (Assembly.complete tree stack)) : IsReadBack tree := by
  intro indent level tail stack awaiting isValue _ ends
  rw [isWritten, resume?_ended (.inl rfl) finishes ends,
    Assembly.step?_of_isValue isValue notClosing, begins, Option.bind_some]

theorem isReadBack_null : IsReadBack .null :=
  isReadBack_word ['l', 'l', 'u', 'n'] .null (fun _ _ _ _ => rfl) rfl (by simp) fun _ => rfl

theorem isReadBack_bool (value : Bool) : IsReadBack (.bool value) := by
  cases value with
  | false =>
      exact isReadBack_word ['e', 's', 'l', 'a', 'f'] (.bool false) (fun _ _ _ _ => rfl) rfl
        (by simp) fun _ => rfl
  | true =>
      exact isReadBack_word ['e', 'u', 'r', 't'] (.bool true) (fun _ _ _ _ => rfl) rfl
        (by simp) fun _ => rfl

theorem isReadBack_int {value : Int} (storable : isStorable value = true) :
    IsReadBack (.int value) := by
  intro indent level tail stack awaiting isValue _ ends
  rw [write, resume?_writeInt value ends, Assembly.step?_of_isValue isValue (by simp),
    Assembly.begin?, Numeral.toJson?_ofInt storable]
  rfl

theorem isReadBack_str (text : String) : IsReadBack (.str text) := by
  intro indent level tail stack awaiting isValue _ _
  rw [write, resume?_writeString, Assembly.step?_of_isValue isValue (by simp)]
  rfl

/-! ## Lists -/

section Lists

variable {indent : Bool} {level outerLevel : Nat} {tail : List Char} {outer : List Frame}

theorem endsToken_writeItems (items : List Json) :
    EndsToken (writeItems indent level items (lineBreak indent outerLevel (']' :: tail))) := by
  cases items with
  | nil => exact endsToken_lineBreak ⟨by decide, by decide⟩
  | cons item rest => exact ⟨by decide, by decide⟩

/-- The items that follow are added to those that are done, and the bracket closes the list. -/
theorem resume?_writeItems {done items : List Json} (areReadBack : ∀ item ∈ items, IsReadBack item)
    (fits : outer.length + 1 + depthItems items ≤ 1024) :
    resume? .between ⟨.list done :: outer, .separator⟩
        (writeItems indent level items (lineBreak indent outerLevel (']' :: tail))) =
      resume? .between (Assembly.complete (.arr (done.reverse ++ items)) outer) tail := by
  induction items generalizing done with
  | nil =>
      rw [writeItems, resume?_lineBreak, resume?_sign rfl, List.append_nil]
      rfl
  | cons item rest ih =>
      rcases List.forall_mem_cons.mp areReadBack with ⟨itemReadBack, restReadBack⟩
      rw [depthItems] at fits
      have itemRead := itemReadBack indent level
        (writeItems indent level rest (lineBreak indent outerLevel (']' :: tail)))
        (.list done :: outer) .value (.inl rfl) (by simp only [List.length_cons]; omega)
        (endsToken_writeItems rest)
      have separates : Assembly.step? fileLimits ⟨.list done :: outer, .separator⟩ .comma =
          some ⟨.list done :: outer, .value⟩ := rfl
      rw [writeItems, resume?_sign rfl, separates, Option.bind_some, resume?_lineBreak, itemRead,
        Assembly.complete, ih restReadBack (by omega)]
      simp

theorem isReadBack_arr {items : List Json} (areReadBack : ∀ item ∈ items, IsReadBack item) :
    IsReadBack (.arr items) := by
  intro indent level tail stack awaiting isValue fits ends
  have opens : Assembly.step? fileLimits ⟨stack, awaiting⟩ .openList =
      some ⟨.list [] :: stack, .firstItem⟩ := by
    rw [Assembly.step?_of_isValue isValue (by simp)]
    apply Assembly.opened?_eq
    rw [depth] at fits
    simp only [List.length_cons]
    omega
  cases items with
  | nil =>
      rw [write, resume?_sign rfl, opens, Option.bind_some, resume?_sign rfl]
      rfl
  | cons item rest =>
      rcases List.forall_mem_cons.mp areReadBack with ⟨itemReadBack, restReadBack⟩
      rw [depth, depthItems] at fits
      have itemRead := itemReadBack indent (level + 1)
        (writeItems indent (level + 1) rest (lineBreak indent level (']' :: tail)))
        (.list [] :: stack) .firstItem (.inr rfl) (by simp only [List.length_cons]; omega)
        (endsToken_writeItems rest)
      rw [write, resume?_sign rfl, opens, Option.bind_some, resume?_lineBreak, itemRead,
        Assembly.complete, resume?_writeItems restReadBack (by omega)]
      rfl

end Lists

/-! ## Objects -/

section Objects

variable {indent : Bool} {level outerLevel : Nat} {tail : List Char} {outer : List Frame}

theorem endsToken_writeFields (fields : List (String × Json)) :
    EndsToken (writeFields indent level fields
      (lineBreak indent outerLevel ('\x7d' :: tail))) := by
  cases fields with
  | nil => exact endsToken_lineBreak ⟨by decide, by decide⟩
  | cons field rest => exact ⟨by decide, by decide⟩

/-- A field with a new key comes after those that are done. -/
theorem resume?_field {done : List (String × Json)} {oldKey key : String} {value : Json}
    {awaiting : Awaiting} (isKey : awaiting = .firstKey ∨ awaiting = .key)
    (readBack : IsReadBack value) (isNew : key ∉ done.map Prod.fst)
    (fits : outer.length + 1 + value.depth ≤ 1024) (ends : EndsToken tail) :
    resume? .between ⟨.object done oldKey :: outer, awaiting⟩
        (writeString key (writeColon indent (write indent level value tail))) =
      resume? .between ⟨.object (done ++ [(key, value)]) key :: outer, .separator⟩ tail := by
  have takesKey : Assembly.step? fileLimits ⟨.object done oldKey :: outer, awaiting⟩ (.str key) =
      some ⟨.object done key :: outer, .colon⟩ := by
    rcases isKey with rfl | rfl <;> rfl
  have takesColon : Assembly.step? fileLimits ⟨.object done key :: outer, .colon⟩ .colon =
      some ⟨.object done key :: outer, .value⟩ := rfl
  have valueRead := readBack indent level tail (.object done key :: outer) .value (.inl rfl)
    (by simp only [List.length_cons]; omega) ends
  rw [resume?_writeString, takesKey, Option.bind_some, resume?_writeColon, takesColon,
    Option.bind_some, valueRead, Assembly.complete, setField_of_notMem isNew]

/-- The fields that follow are added to those that are done, and the brace closes the object. -/
theorem resume?_writeFields {done fields : List (String × Json)} {oldKey : String}
    (areReadBack : ∀ field ∈ fields, IsReadBack field.2)
    (distinct : ((done ++ fields).map Prod.fst).Nodup)
    (fits : outer.length + 1 + depthFields fields ≤ 1024) :
    resume? .between ⟨.object done oldKey :: outer, .separator⟩
        (writeFields indent level fields (lineBreak indent outerLevel ('\x7d' :: tail))) =
      resume? .between (Assembly.complete (.obj (done ++ fields)) outer) tail := by
  induction fields generalizing done oldKey with
  | nil =>
      rw [writeFields, resume?_lineBreak, resume?_sign rfl, List.append_nil]
      rfl
  | cons field rest ih =>
      rcases field with ⟨key, value⟩
      rcases List.forall_mem_cons.mp areReadBack with
        ⟨(valueReadBack : IsReadBack value), restReadBack⟩
      rw [depthFields] at fits
      have isNew : key ∉ done.map Prod.fst := by
        intro isOld
        rw [List.map_append, List.nodup_append] at distinct
        exact distinct.2.2 key isOld key (by simp) rfl
      have separates : Assembly.step? fileLimits ⟨.object done oldKey :: outer, .separator⟩ .comma =
          some ⟨.object done oldKey :: outer, .key⟩ := rfl
      rw [writeFields, resume?_sign rfl, separates, Option.bind_some, resume?_lineBreak,
        resume?_field (.inr rfl) valueReadBack isNew (by omega) (endsToken_writeFields rest),
        ih restReadBack (by simpa using distinct) (by omega)]
      simp

theorem isReadBack_obj {fields : List (String × Json)}
    (areReadBack : ∀ field ∈ fields, IsReadBack field.2)
    (distinct : (fields.map Prod.fst).Nodup) : IsReadBack (.obj fields) := by
  intro indent level tail stack awaiting isValue fits ends
  have opens : Assembly.step? fileLimits ⟨stack, awaiting⟩ .openObject =
      some ⟨.object [] "" :: stack, .firstKey⟩ := by
    rw [Assembly.step?_of_isValue isValue (by simp)]
    apply Assembly.opened?_eq
    rw [depth] at fits
    simp only [List.length_cons]
    omega
  cases fields with
  | nil =>
      rw [write, resume?_sign rfl, opens, Option.bind_some, resume?_sign rfl]
      rfl
  | cons field rest =>
      rcases field with ⟨key, value⟩
      rcases List.forall_mem_cons.mp areReadBack with
        ⟨(valueReadBack : IsReadBack value), restReadBack⟩
      rw [depth, depthFields] at fits
      rw [write, resume?_sign rfl, opens, Option.bind_some, resume?_lineBreak,
        resume?_field (.inl rfl) valueReadBack (by simp) (by omega) (endsToken_writeFields rest),
        resume?_writeFields restReadBack (by simpa using distinct) (by omega)]
      rfl

end Objects

/-! ## Whole texts -/

theorem IsExact.isReadBack {tree : Json} (exact : IsExact tree)
    (storable : tree.hasStorableNumbers = true) : IsReadBack tree := by
  induction exact with
  | null => exact isReadBack_null
  | bool value => exact isReadBack_bool value
  | int value => exact isReadBack_int storable
  | str text => exact isReadBack_str text
  | arr _ ih =>
      rw [hasStorableNumbers, itemsStorable_iff] at storable
      exact isReadBack_arr fun item isItem => ih item isItem (storable item isItem)
  | obj distinct _ ih =>
      rw [hasStorableNumbers, fieldsStorable_iff] at storable
      exact isReadBack_obj (fun field isField => ih field isField (storable field isField)) distinct

theorem toText?_eq_some_iff {indent : Bool} {tree : Json} {text : String} :
    tree.toText? indent = some text ↔
      (tree.hasStorableNumbers = true ∧ tree.depth ≤ greatestWrittenDepth) ∧
        tree.text indent = text := by
  simp [toText?]

theorem IsExact.ofText?_of_toText? {tree : Json} (exact : IsExact tree) {indent : Bool}
    {text : String} (writes : tree.toText? indent = some text) : ofText? text = some tree := by
  rcases toText?_eq_some_iff.mp writes with ⟨⟨storable, fits⟩, rfl⟩
  have fits : tree.depth ≤ 254 := fits
  have read := exact.isReadBack storable indent 0 [] [] .value (.inl rfl)
    (by simp only [List.length_nil]; omega) trivial
  rw [ofText?_eq, text, String.toList_ofList, read]
  rfl

example : (obj [("a", .arr [.null, .int (-1)])]).toText? false =
    some "\x7b\"a\":[null,-1]\x7d" := by decide +kernel

example : (obj [("a", .arr [.null, .int (-1)])]).toText? true =
    some "\x7b\n  \"a\": [\n    null,\n    -1\n  ]\n\x7d" := by decide +kernel

end Json

/-! ## Files -/

namespace Files

variable {files : Files} {path : String} {tree : Json} {indent : Bool}

/-- A tree that has a text is saved wherever there is room. -/
theorem failure_saveTree_eq_none (hasRoom : ∃ placed, files.place path = .ok placed)
    (hasText : ∃ text, tree.toText? indent = some text) :
    (files.saveTree path tree indent).failure = none := by
  rcases hasRoom with ⟨placed, places⟩
  rcases hasText with ⟨text, writes⟩
  simp [saveTree, places, writes]

/-- What is saved is the text of the tree, and its path leads to it. -/
theorem find_saveTree (saves : (files.saveTree path tree indent).failure = none) :
    ∃ place text, tree.toText? indent = some text ∧
      (files.saveTree path tree indent).files.find path = .file place text := by
  unfold saveTree at saves ⊢
  cases places : files.place path with
  | error failure => simp [places] at saves
  | ok placed =>
      rcases placed with ⟨made, place⟩
      cases writes : tree.toText? indent with
      | none => simp [places, writes] at saves
      | some text =>
          have found := (room?_find_of_place places).2
          have isEmptied : ((made.write place "").find path).room? = some place := by
            rw [find_write found]
            rfl
          exact ⟨place, text, rfl, find_write isEmptied text⟩

end Files

namespace Json

/-- How a tree is written, read back, saved and loaded. -/
structure RoundTrips (tree : Json) (indent : Bool) : Prop where
  writes : (∀ value, Occurs (.int value) tree → -2 ^ 63 ≤ value ∧ value < 2 ^ 64) →
    tree.depth ≤ 254 → ∃ text, tree.toText? indent = some text
  refuses : ∀ value, Occurs (.int value) tree → ¬(-2 ^ 63 ≤ value ∧ value < 2 ^ 64) →
    tree.toText? indent = none
  reads : ∀ text, tree.toText? indent = some text → ofText? text = some tree
  saves : ∀ (files : Files) (path : String), (∃ placed, files.place path = .ok placed) →
    (∃ text, tree.toText? indent = some text) → (files.saveTree path tree indent).failure = none
  loads : ∀ (files : Files) (path : String), (files.saveTree path tree indent).failure = none →
    (files.saveTree path tree indent).files.loadTree? path = some tree

/--
A tree without fractions and repeated keys has a text if its numbers are storable
and it is not too deep, and every text and every file it is written to is read as
the same tree. On one line and indented it is the same.
-/
theorem IsExact.roundTrips {tree : Json} (exact : IsExact tree) :
    (∀ indent, RoundTrips tree indent) ∧
      ∀ indented, tree.toText? true = some indented →
        ∃ compact, tree.toText? false = some compact ∧ ofText? indented = ofText? compact := by
  have reads {indent : Bool} {text : String} (writes : tree.toText? indent = some text) :
      ofText? text = some tree := exact.ofText?_of_toText? writes
  constructor
  · intro indent
    constructor
    case writes =>
      intro inRange fits
      have storable : tree.hasStorableNumbers = true := by
        rw [hasStorableNumbers_iff]
        intro value occurs
        exact isStorable_iff.mpr (inRange value occurs)
      exact ⟨_, toText?_eq_some_iff.mpr ⟨⟨storable, fits⟩, rfl⟩⟩
    case refuses =>
      intro value occurs outOfRange
      apply toText?_eq_none_iff.mpr
      left
      rw [← Bool.not_eq_true, hasStorableNumbers_iff]
      intro storable
      exact outOfRange (isStorable_iff.mp (storable value occurs))
    case reads =>
      intro text
      exact reads
    case saves =>
      intro files path
      exact Files.failure_saveTree_eq_none
    case loads =>
      intro files path saves
      rcases Files.find_saveTree saves with ⟨place, text, writes, found⟩
      rw [Files.loadTree?, found]
      exact reads writes
  · intro indented writes
    rcases toText?_eq_some_iff.mp writes with ⟨isWritable, _⟩
    have alsoWrites : tree.toText? false = some (tree.text false) :=
      toText?_eq_some_iff.mpr ⟨isWritable, rfl⟩
    exact ⟨_, alsoWrites, by rw [reads writes, reads alsoWrites]⟩

/-- A tree with escaped characters, the least and the greatest storable number, and empty parts. -/
def sampleTree : Json :=
  .obj [("type", .str "\"é\\\n\x01"),
    ("range", .arr [.int (-9223372036854775808), .int 18446744073709551615]),
    ("body", .arr [.obj [], .arr [], .null, .bool true, .str ""])]

theorem isExact_sampleTree : IsExact sampleTree := by
  refine .obj (by decide) ?_
  simp only [List.forall_mem_cons, List.not_mem_nil, false_imp_iff, implies_true, and_true]
  refine ⟨.str _, .arr ?_, .arr ?_⟩
  · simp [IsExact.int]
  · have emptyList : IsExact (.arr []) := .arr (by simp)
    have emptyObject : IsExact (.obj []) := .obj (by simp) (by simp)
    simp [emptyList, emptyObject, IsExact.null, IsExact.bool, IsExact.str]

theorem IsExact.roundTrips_sampleTree :
    (∃ indented compact, sampleTree.toText? true = some indented ∧
      sampleTree.toText? false = some compact ∧ indented ≠ compact ∧
      ofText? indented = some sampleTree ∧ ofText? compact = some sampleTree) ∧
    ((⟨[], []⟩ : Files).saveTree "out/tree.json" sampleTree true).files.loadTree? "out/tree.json" =
      some sampleTree := by
  have roundTrips := isExact_sampleTree.roundTrips.1
  have writes (indent : Bool) : sampleTree.toText? indent = some (sampleTree.text indent) := by
    cases indent <;> decide +kernel
  have differ : sampleTree.text true ≠ sampleTree.text false := by decide +kernel
  have saves : ((⟨[], []⟩ : Files).saveTree "out/tree.json" sampleTree true).failure = none := by
    decide +kernel
  exact ⟨⟨_, _, writes true, writes false, differ, (roundTrips true).reads _ (writes true),
    (roundTrips false).reads _ (writes false)⟩, (roundTrips true).loads _ _ saves⟩

end Json

end ClassLift

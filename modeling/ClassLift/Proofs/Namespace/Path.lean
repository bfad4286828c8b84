import ClassLift.Proofs.Namespace.Scope
import ClassLift.Proofs.Text.Pieces

/-!
# Reading and writing namespaces

A namespace is written with dots between its segments. The texts that can be read
are described without dividing them, by where their dots stand, and the paths that
can be written and read again by what their segments are. Reading and writing are
inverse to each other between these two: `NamespacePath.parse_inverts_dotted`.
-/

namespace ClassLift.NamespacePath

/-- A text with something before, between and after its dots. -/
structure IsDotted (text : String) : Prop where
  notEmpty : text ≠ ""
  startsPlain : text.toList.head? ≠ some '.'
  endsPlain : text.toList.getLast? ≠ some '.'
  dotsApart : ¬['.', '.'] <:+: text.toList

/-- A text that can stand between two dots. -/
structure IsSegment (segment : String) : Prop where
  notEmpty : segment ≠ ""
  noDot : '.' ∉ segment.toList

theorem isDotted_iff {text : String} : IsDotted text ↔ "" ∉ Text.pieces '.' text := by
  rw [Text.empty_mem_pieces_iff, not_or, not_or, not_or]
  constructor
  · rintro ⟨notEmpty, startsPlain, endsPlain, dotsApart⟩
    exact ⟨notEmpty, startsPlain, endsPlain, dotsApart⟩
  · rintro ⟨notEmpty, startsPlain, endsPlain, dotsApart⟩
    exact ⟨notEmpty, startsPlain, endsPlain, dotsApart⟩

theorem ofSegments?_segments (path : NamespacePath) : ofSegments? path.segments = some path := by
  simp [ofSegments?, segments]

/-- A text is read as the path with its pieces, if none of them is empty. -/
theorem parse_str_eq_ok_iff {text : String} {path : NamespacePath} :
    parse (.str text) = .ok path ↔
      path.segments = Text.pieces '.' text ∧ "" ∉ Text.pieces '.' text := by
  constructor
  · intro parses
    rcases segments_of_parse parses with ⟨segmentsAre, noEmpty⟩
    exact ⟨segmentsAre, segmentsAre ▸ noEmpty⟩
  · rintro ⟨segmentsAre, noEmpty⟩
    have notEmpty : text ≠ "" := (isDotted_iff.mpr noEmpty).notEmpty
    rw [← segmentsAre] at noEmpty
    simp [parse, notEmpty, ← segmentsAre, noEmpty, ofSegments?_segments]

/-- A value that is read as a path is the text of that path. -/
theorem parse_eq_ok_iff {value : Json} {path : NamespacePath} :
    parse value = .ok path ↔
      value = .str path.dotted ∧ ∀ segment ∈ path.segments, IsSegment segment := by
  constructor
  · intro parses
    cases value with
    | str text =>
        rcases parse_str_eq_ok_iff.mp parses with ⟨segmentsAre, noEmpty⟩
        rw [dotted, segmentsAre, Text.joined_pieces]
        refine ⟨rfl, ?_⟩
        intro segment isPiece
        exact ⟨ne_of_mem_of_not_mem isPiece noEmpty, Text.not_mem_of_mem_pieces isPiece⟩
    | null | bool | int | float | arr | obj => simp [parse] at parses
  · rintro ⟨rfl, areSegments⟩
    have someSegment : path.segments ≠ [] := by simp [segments]
    have piecesAre : Text.pieces '.' path.dotted = path.segments :=
      Text.pieces_joined someSegment fun segment isSegment => (areSegments segment isSegment).noDot
    rw [parse_str_eq_ok_iff, piecesAre]
    refine ⟨rfl, ?_⟩
    intro hasEmpty
    exact (areSegments "" hasEmpty).notEmpty rfl

theorem exists_segments {listed : List String} (notEmpty : listed ≠ []) :
    ∃ path : NamespacePath, path.segments = listed := by
  rcases List.eq_nil_or_concat listed with isEmpty | ⟨containers, className, rfl⟩
  · exact absurd isEmpty notEmpty
  · exact ⟨⟨containers, className⟩, by simp [segments]⟩

theorem exists_parse_iff {value : Json} :
    (∃ path, parse value = .ok path) ↔ ∃ text, value = .str text ∧ IsDotted text := by
  constructor
  · rintro ⟨path, parses⟩
    have textIs := (parse_eq_ok_iff.mp parses).1
    rw [textIs, parse_str_eq_ok_iff] at parses
    exact ⟨path.dotted, textIs, isDotted_iff.mpr parses.2⟩
  · rintro ⟨text, rfl, isDotted⟩
    have somePiece : Text.pieces '.' text ≠ [] := by simp [Text.pieces]
    rcases exists_segments somePiece with ⟨path, segmentsAre⟩
    exact ⟨path, parse_str_eq_ok_iff.mpr ⟨segmentsAre, isDotted_iff.mp isDotted⟩⟩

/-- What a path has from the text it is read from. -/
structure IsReadFrom (path : NamespacePath) (text : String) : Prop where
  dotted : path.dotted = text
  segments : ∀ segment ∈ path.segments, IsSegment segment
  length : path.length = text.toList.count '.' + 1
  containers : path.containers ++ [path.className] = Text.pieces '.' text
  root : (Text.pieces '.' text).head? = some path.root

theorem isReadFrom_of_parse {text : String} {path : NamespacePath}
    (parses : parse (.str text) = .ok path) : path.IsReadFrom text := by
  rcases parse_eq_ok_iff.mp parses with ⟨textIs, areSegments⟩
  have segmentsAre := (parse_str_eq_ok_iff.mp parses).1
  rw [Json.str.injEq] at textIs
  exact {
    dotted := textIs.symm
    segments := areSegments
    length := by rw [NamespacePath.length, segmentsAre, Text.length_pieces]
    containers := segmentsAre
    root := by rw [← segmentsAre, head?_segments] }

/--
A value is read exactly if it is a text with something before, between and after
its dots. Reading and writing are then inverse to each other: the path that is read
is written as the same text, and every list of segments that is written with dots
is read again.
-/
theorem parse_inverts_dotted :
    (∀ value, (∃ path, parse value = .ok path) ↔ ∃ text, value = .str text ∧ IsDotted text) ∧
      (∀ value path, parse value = .ok path ↔
        value = .str path.dotted ∧ ∀ segment ∈ path.segments, IsSegment segment) ∧
      (∀ text path, parse (.str text) = .ok path → path.IsReadFrom text) ∧
      ∀ listed : List String, listed ≠ [] → (∀ segment ∈ listed, IsSegment segment) →
        ∃ path, parse (.str (Text.joined '.' listed)) = .ok path ∧ path.segments = listed := by
  refine ⟨fun _ => exists_parse_iff, fun _ _ => parse_eq_ok_iff, fun _ _ => isReadFrom_of_parse,
    ?_⟩
  intro listed notEmpty areSegments
  rcases exists_segments notEmpty with ⟨path, rfl⟩
  exact ⟨path, parse_eq_ok_iff.mpr ⟨rfl, areSegments⟩, rfl⟩

example : parse (.str "app.ui.Button") = .ok ⟨["app", "ui"], "Button"⟩ := rfl

example : parse (.str "app..Button") = .error (.invalidNamespace "app..Button" .emptySegment) := rfl

end ClassLift.NamespacePath

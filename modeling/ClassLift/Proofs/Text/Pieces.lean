import ClassLift.Text.Pieces

/-!
# Dividing and joining texts

The pieces of a text are its characters split at a separator. Joining the pieces
gives the text back, and dividing what was joined gives the pieces back, provided
that no piece holds the separator. Whether a piece is empty can be told from the
text itself, without dividing it: it starts or ends with a separator, or has two of
them side by side.
-/

namespace ClassLift.Text

theorem cons_split (separator : Char) (characters : List Char) :
    (split separator characters).1 :: (split separator characters).2 =
      characters.splitOn separator := by
  induction characters with
  | nil => rfl
  | cons character rest ih =>
      rw [List.splitOn_eq_splitOnP, List.splitOnP_cons_eq_if_modifyHead,
        ← List.splitOn_eq_splitOnP, ← ih]
      by_cases isSeparator : character = separator
      · simp [split, isSeparator]
      · simp [split, isSeparator]

theorem pieces_eq_splitOn (separator : Char) (text : String) :
    pieces separator text = (text.toList.splitOn separator).map String.ofList := by
  rw [← cons_split]
  rfl

theorem joined_pieces (separator : Char) (text : String) :
    joined separator (pieces separator text) = text := by
  rw [joined, pieces_eq_splitOn, List.map_map]
  have sameCharacters : String.toList ∘ String.ofList = id := by
    funext characters
    simp
  rw [sameCharacters, List.map_id, List.intercalate_splitOn, String.ofList_toList]

theorem pieces_joined {separator : Char} {texts : List String} (notEmpty : texts ≠ [])
    (areFree : ∀ text ∈ texts, separator ∉ text.toList) :
    pieces separator (joined separator texts) = texts := by
  have charactersFree : ∀ characters ∈ texts.map String.toList, separator ∉ characters := by
    simpa using areFree
  rw [pieces_eq_splitOn, joined, String.toList_ofList,
    List.splitOn_intercalate separator charactersFree (by simpa using notEmpty), List.map_map]
  have sameText : String.ofList ∘ String.toList = id := by
    funext text
    simp
  rw [sameText, List.map_id]

/-! ## Characters of the pieces -/

theorem not_mem_of_mem_split {separator : Char} {characters piece : List Char}
    (isPiece : piece ∈ (split separator characters).1 :: (split separator characters).2) :
    separator ∉ piece := by
  induction characters generalizing piece with
  | nil =>
      obtain rfl : piece = [] := by simpa [split] using isPiece
      simp
  | cons character rest ih =>
      by_cases isSeparator : character = separator
      · simp only [split, isSeparator, if_true, List.mem_cons] at isPiece
        rcases isPiece with rfl | isLater
        · simp
        · exact ih (by simpa using isLater)
      · simp only [split, isSeparator, if_false, List.mem_cons] at isPiece
        rcases isPiece with rfl | isLater
        · have notInRest := ih List.mem_cons_self
          simp [notInRest, Ne.symm isSeparator]
        · exact ih (List.mem_cons_of_mem _ isLater)

theorem not_mem_of_mem_pieces {separator : Char} {text piece : String}
    (isPiece : piece ∈ pieces separator text) : separator ∉ piece.toList := by
  rcases List.mem_map.mp isPiece with ⟨characters, isSplit, rfl⟩
  rw [String.toList_ofList]
  exact not_mem_of_mem_split isSplit

theorem length_split (separator : Char) (characters : List Char) :
    (split separator characters).2.length = characters.count separator := by
  induction characters with
  | nil => rfl
  | cons character rest ih =>
      by_cases isSeparator : character = separator
      · simp [split, isSeparator, ih]
      · simp [split, isSeparator, ih]

/-- Every separator begins another piece. -/
theorem length_pieces (separator : Char) (text : String) :
    (pieces separator text).length = text.toList.count separator + 1 := by
  rw [← length_split]
  simp [pieces]

/-! ## Empty pieces -/

theorem fst_split_eq_nil_iff {separator : Char} {characters : List Char} :
    (split separator characters).1 = [] ↔
      characters = [] ∨ characters.head? = some separator := by
  cases characters with
  | nil => simp [split]
  | cons character rest =>
      by_cases isSeparator : character = separator
      · simp [split, isSeparator]
      · simp [split, isSeparator]

/-- A piece after the first one is empty at the end of a text or between two separators. -/
theorem nil_mem_snd_split_iff {separator : Char} {characters : List Char} :
    [] ∈ (split separator characters).2 ↔
      characters.getLast? = some separator ∨ [separator, separator] <:+: characters := by
  induction characters with
  | nil => simp [split]
  | cons character rest ih =>
      have inside_iff : [separator, separator] <:+: character :: rest ↔
          (character = separator ∧ rest.head? = some separator) ∨
            [separator, separator] <:+: rest := by
        rw [List.infix_cons_iff, List.cons_prefix_cons, eq_comm]
        cases rest with
        | nil => simp
        | cons next others => simp [eq_comm]
      rw [inside_iff]
      by_cases isSeparator : character = separator
      · subst isSeparator
        have splitIs : (split character (character :: rest)).2 =
            (split character rest).1 :: (split character rest).2 := by
          simp [split]
        rw [splitIs, List.mem_cons, eq_comm, fst_split_eq_nil_iff, ih]
        cases rest with
        | nil => simp
        | cons next others => simpa using or_left_comm
      · have splitIs : (split separator (character :: rest)).2 = (split separator rest).2 := by
          simp [split, isSeparator]
        rw [splitIs, ih]
        cases rest with
        | nil => simp [isSeparator]
        | cons next others => simp [isSeparator]

theorem empty_mem_pieces_iff {separator : Char} {text : String} :
    "" ∈ pieces separator text ↔
      text = "" ∨ text.toList.head? = some separator ∨ text.toList.getLast? = some separator ∨
        [separator, separator] <:+: text.toList := by
  have isPiece_iff : "" ∈ pieces separator text ↔
      (split separator text.toList).1 = [] ∨ [] ∈ (split separator text.toList).2 := by
    rw [pieces, List.mem_map]
    constructor
    · rintro ⟨piece, isSplit, isEmpty⟩
      obtain rfl : piece = [] := by simpa using isEmpty
      exact (List.mem_cons.mp isSplit).imp_left Eq.symm
    · intro isSplit
      exact ⟨[], List.mem_cons.mpr (isSplit.imp_left Eq.symm), rfl⟩
  rw [isPiece_iff, fst_split_eq_nil_iff, nil_mem_snd_split_iff, or_assoc,
    String.toList_eq_nil_iff]

end ClassLift.Text

import ClassLift.Files
import ClassLift.Proofs.LookUp

/-!
# What saving a tree does to the files

A file is emptied before the text of a tree is known. An attempt to save that
finds a place for the file and then no text for the tree has therefore emptied
the file, or made an empty one; every other attempt that fails leaves all files
as they were. No attempt touches any other file. A file that was written is found
again where its text leads.
-/

namespace ClassLift

namespace Json

/-- A tree that has no text: a number in it is not storable, or it is too deep. -/
def IsUnwritable (tree : Json) : Prop :=
  tree.hasStorableNumbers = false ∨ greatestWrittenDepth < tree.depth

theorem toText?_eq_none_iff {indent : Bool} {tree : Json} :
    tree.toText? indent = none ↔ tree.IsUnwritable := by
  simp only [toText?, IsUnwritable, ite_eq_right_iff, reduceCtorEq, imp_false, Bool.and_eq_true,
    decide_eq_true_eq, not_and, Nat.not_le]
  cases tree.hasStorableNumbers <;> simp

end Json

namespace Files

theorem lookup_setContent (path : Path) (content : String) (files : List (Path × String)) :
    (setContent path content files).lookup path = some content := by
  induction files with
  | nil => simp [setContent]
  | cons file rest ih =>
      rcases file with ⟨otherPath, other⟩
      by_cases same : otherPath = path
      · simp [setContent, same]
      · have differs : (path == otherPath) = false := by simpa using Ne.symm same
        simp [setContent, same, List.lookup_cons, differs, ih]

theorem lookup_setContent_of_ne {path otherPath : Path} (differ : otherPath ≠ path)
    (content : String) (files : List (Path × String)) :
    (setContent path content files).lookup otherPath = files.lookup otherPath := by
  have differs : (otherPath == path) = false := by simpa using differ
  induction files with
  | nil => simpa [setContent] using differ
  | cons file rest ih =>
      rcases file with ⟨filePath, other⟩
      by_cases same : filePath = path
      · simp [setContent, same, List.lookup_cons, differs]
      · simp [setContent, same, List.lookup_cons, ih]

@[simp]
theorem read?_write (files : Files) (path : Path) (content : String) :
    (files.write path content).read? path = some content :=
  lookup_setContent path content files.files

theorem read?_write_of_ne {path otherPath : Path} (differ : otherPath ≠ path) (files : Files)
    (content : String) : (files.write path content).read? otherPath = files.read? otherPath :=
  lookup_setContent_of_ne differ content files.files

/-! ## The place of a file -/

end Files

/-- Where a file stands or can be made. -/
def Found.room? : Found → Option Path
  | .file path _ | .free path => some path
  | .directory _ | .missing | .blocked | .tooLong => none

namespace Files

theorem room?_follow {files : Files} {reached path : Path} {segments : List String}
    (found : (files.follow reached segments).room? = some path) :
    path = segments.foldl Path.enter reached := by
  induction segments generalizing reached with
  | nil => simp [follow, Found.room?] at found
  | cons segment rest ih =>
      simp only [follow] at found
      split at found
      · simp [Found.room?] at found
      split at found
      · exact ih found
      · -- Only the last segment can lead to a file or to a free place.
        generalize files.read? (reached.enter segment) = content? at found
        cases rest with
        | nil => cases content? <;> simpa [Found.room?, eq_comm] using found
        | cons _ _ => cases content? <;> simp [Found.room?] at found

theorem room?_find {files : Files} {text : String} {path : Path}
    (found : (files.find text).room? = some path) : path = Path.ofText text := by
  unfold find at found
  split at found
  · simp [Found.room?] at found
  split at found
  · simp [Found.room?] at found
  · exact room?_follow found

/-- Making a directory changes no file. -/
theorem makeDirectory_files {files made : Files} {start : String} {origin : Path}
    {segments : List String} (makes : files.makeDirectory start origin segments = .ok made) :
    made.files = files.files := by
  unfold makeDirectory at makes
  simp only at makes
  split at makes
  · simp at makes
  split at makes
  · simp at makes
  cases found : files.follow origin segments with
  | directory path =>
      simp only [found, Except.ok.injEq] at makes
      rw [makes]
  | free path =>
      simp only [found, Except.ok.injEq] at makes
      rw [← makes]
  | file path content | missing | blocked | tooLong => simp [found] at makes

theorem makeDirectories_files {files made : Files} {start : String} {origin : Path}
    {segments : List String} (makes : makeDirectories start origin segments files = .ok made) :
    made.files = files.files := by
  induction segments generalizing files made with
  | nil => exact makeDirectory_files makes
  | cons segment above ih =>
      simp only [makeDirectories] at makes
      split at makes
      · cases upper : makeDirectories start origin above files with
        | error failure => simp [upper, bind, Except.bind] at makes
        | ok between =>
            simp only [upper, bind, Except.bind] at makes
            rw [makeDirectory_files makes, ih upper]
      · exact makeDirectory_files makes

/-- Making room for a file changes none, and the file can then stand where its text leads. -/
theorem room?_find_of_place {files made : Files} {text : String} {path : Path}
    (places : files.place text = .ok (made, path)) :
    made.files = files.files ∧ (made.find text).room? = some path := by
  unfold place at places
  rcases bind_eq_ok_iff.mp places with ⟨between, makes, places⟩
  by_cases isNull : hasNull text = true
  · simp [isNull, error_bind] at places
  simp only [isNull, Bool.false_eq_true, if_false] at places
  suffices placed : (between, (between.find text).room?) = (made, some path) by
    rw [Prod.mk.injEq] at placed
    rw [← placed.1]
    exact ⟨makeDirectories_files makes, placed.2⟩
  cases found : between.find text with
  | file reached content | free reached =>
      simp only [found, pure_eq_ok_iff, Prod.mk.injEq] at places
      simp [Found.room?, places]
  | directory _ | missing | blocked | tooLong => simp [found] at places

/-- The place for a file is what its text names, and making room for it changes no file. -/
theorem place_eq_ok {files made : Files} {text : String} {path : Path}
    (places : files.place text = .ok (made, path)) :
    made.files = files.files ∧ path = Path.ofText text := by
  rcases room?_find_of_place places with ⟨sameFiles, found⟩
  exact ⟨sameFiles, room?_find found⟩

/-! ## A file that was written -/

theorem any_setContent (test : Path → Bool) (path : Path) (content : String)
    (files : List (Path × String)) :
    ((setContent path content files).any fun (other, _) => test other) =
      (test path || files.any fun (other, _) => test other) := by
  induction files with
  | nil => simp [setContent]
  | cons file rest ih =>
      rcases file with ⟨otherPath, other⟩
      by_cases same : otherPath = path
      · simp [setContent, same]
      · simp [setContent, same, ih, Bool.or_left_comm]

/-- Writing a file makes the directories above it, and no other. -/
theorem isDirectory_write (files : Files) (path : Path) (content : String) (other : Path) :
    (files.write path content).isDirectory other =
      (files.isDirectory other || (other.isPrefixOf path && other != path)) := by
  have above := any_setContent (fun file => other.isPrefixOf file && other != file) path content
    files.files
  simp only [isDirectory, write, above]
  rw [Bool.or_comm (other.isPrefixOf path && other != path), ← Bool.or_assoc]

/-- Where a file could be made, it is found once it is written. -/
theorem follow_write {files : Files} {reached path : Path} {segments : List String}
    (found : (files.follow reached segments).room? = some path) (content : String) :
    (files.write path content).follow reached segments = .file path content := by
  induction segments generalizing reached with
  | nil => simp [follow, Found.room?] at found
  | cons segment rest ih =>
      simp only [follow] at found ⊢
      split at found
      · simp [Found.room?] at found
      rename_i fitting
      rw [if_neg fitting]
      split at found
      · rename_i isDirectory
        rw [if_pos (by simp [isDirectory_write, isDirectory])]
        exact ih found
      · rename_i noDirectory
        -- Only the last segment leads to the file, and a file is no directory above itself.
        generalize files.read? (reached.enter segment) = content? at found
        cases rest with
        | nil =>
            obtain rfl : reached.enter segment = path := by
              cases content? <;> simpa [Found.room?] using found
            simp [isDirectory_write, noDirectory]
        | cons _ _ => cases content? <;> simp [Found.room?] at found

theorem find_write {files : Files} {text : String} {path : Path}
    (found : (files.find text).room? = some path) (content : String) :
    (files.write path content).find text = .file path content := by
  unfold find at found ⊢
  split at found
  · simp [Found.room?] at found
  split at found
  · simp [Found.room?] at found
  · rename_i noNull fitting
    rw [if_neg noNull, if_neg fitting]
    exact follow_write found content

/-! ## Saving -/

/--
What becomes of the files around a path: they stay as they are, but for the file
at the path itself, which stays exactly unless it is lost and is then empty.
-/
structure StayUnless (lost : Prop) (before after : Files) (path : Path) : Prop where
  stays_iff : after.read? path = before.read? path ↔ ¬lost
  emptied : lost → after.read? path = some ""
  othersStay : ∀ other, other ≠ path → after.read? other = before.read? other

theorem StayUnless.refl {lost : Prop} (notLost : ¬lost) (files : Files) (path : Path) :
    StayUnless lost files files path :=
  ⟨by simp [notLost], fun isLost => absurd isLost notLost, fun _ _ => rfl⟩

/-- Whether an attempt to save finds a place for the file, but no text to put there. -/
def LosesContent (files : Files) (text : String) (tree : Json) : Prop :=
  (∃ placed, files.place text = .ok placed) ∧ tree.IsUnwritable ∧
    files.read? (Path.ofText text) ≠ some ""

/-- A tree without a text is not saved, be there a place for it or not. -/
theorem failure_saveTree_of_isUnwritable {tree : Json} (isUnwritable : tree.IsUnwritable)
    (files : Files) (text : String) (indent : Bool) :
    (files.saveTree text tree indent).failure ≠ none := by
  unfold saveTree
  rw [Json.toText?_eq_none_iff.mpr isUnwritable]
  cases files.place text with
  | error failure => simp
  | ok placed => simp

/-- An attempt to save that fails loses the content of its file at most. -/
theorem saveTree_stayUnless {files : Files} {text : String} {tree : Json} {indent : Bool}
    (fails : (files.saveTree text tree indent).failure ≠ none) :
    StayUnless (files.LosesContent text tree) files (files.saveTree text tree indent).files
      (Path.ofText text) := by
  unfold saveTree at fails ⊢
  cases places : files.place text with
  | error failure =>
      apply StayUnless.refl
      rintro ⟨⟨placed, alsoPlaces⟩, _⟩
      simp [places] at alsoPlaces
  | ok placed =>
      rcases placed with ⟨made, path⟩
      rcases place_eq_ok places with ⟨sameFiles, rfl⟩
      cases writes : tree.toText? indent with
      | some written => simp [places, writes] at fails
      | none =>
          have unwritable := Json.toText?_eq_none_iff.mp writes
          refine ⟨?_, fun _ => read?_write made _ _, ?_⟩
          · simp only [read?_write, LosesContent, places, unwritable]
            simp [eq_comm]
          · intro other differ
            rw [read?_write_of_ne differ, read?, sameFiles, read?]

end Files

end ClassLift

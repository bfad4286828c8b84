import ClassLift.Terminal.Cluster
import ClassLift.Text.Pieces

/-!
# Lines of limited width

A line that is wider than its place is broken between words. A word that is too
wide for a line of its own is either continued on the next lines, or cut, with
three dots in one cell to show it.
-/

namespace ClassLift.Terminal

/-- What happens to a word that is too wide for a line. -/
inductive Overflow where
  | fold
  | ellipsis
deriving DecidableEq

/-- Where a line stands in a place that is wider than it. -/
inductive Alignment where
  /-- At the left edge, without blanks after it. -/
  | loose
  | left
  | right
  | centre
deriving DecidableEq

def spaces (count : Nat) : List Char :=
  List.replicate count ' '

/-- The characters followed by spaces up to a width. -/
def padRight (width : Nat) (characters : List Char) : List Char :=
  characters ++ spaces (width - cellCount characters)

/-- The characters after spaces up to a width. -/
def padLeft (width : Nat) (characters : List Char) : List Char :=
  spaces (width - cellCount characters) ++ characters

/-- The characters without the blank ones at the end. -/
def trimmedRight (characters : List Char) : List Char :=
  (characters.reverse.dropWhile Text.isBlank).reverse

/-- A word with the blanks around it: those before it only at the start of a line. -/
def takeWord (characters : List Char) : List Char × List Char :=
  let before := characters.takeWhile Text.isBlank
  let word := (characters.drop before.length).takeWhile fun c => !Text.isBlank c
  let after := (characters.drop (before.length + word.length)).takeWhile Text.isBlank
  let length := before.length + word.length + after.length
  if word.isEmpty then ([], characters) else (characters.take length, characters.drop length)

/-- The words of a line. -/
def spacedWords : (fuel : Nat) → List Char → List (List Char)
  | 0, _ => []
  | fuel + 1, characters =>
      match takeWord characters with
      | ([], _) => []
      | (word, rest) => word :: spacedWords fuel rest

/--
Parts of a word, each as wide as a line allows. The clusters in `part` are kept
in reverse and take `used` cells.
-/
def chop (width : Nat) : List Cluster → (part : List Cluster) → (used : Nat) → List (List Char)
  | [], part, used => if used = 0 then [] else [joinClusters part.reverse]
  | cluster :: rest, part, used =>
      if width < used + cluster.cells then
        joinClusters part.reverse :: chop width rest [cluster] cluster.cells
      else chop width rest (cluster :: part) (used + cluster.cells)

/-- The places at which a word that starts at `start` is folded, and the width of its last part. -/
def foldPlaces : (start : Nat) → List (List Char) → List Nat × Nat
  | _, [] => ([], 0)
  | start, [part] => (if start = 0 then [] else [start], cellCount part)
  | start, part :: rest =>
      let (places, last) := foldPlaces (start + part.length) rest
      (if start = 0 then places else start :: places, last)

/-- The places at which a line is broken; `used` cells of the current line are taken. -/
def breakPlaces (overflow : Overflow) (width : Nat) :
    List (List Char) → (start used : Nat) → List Nat
  | [], _, _ => []
  | word :: rest, start, used =>
      let cells := cellCount (trimmedRight word)
      let following (used : Nat) : List Nat :=
        breakPlaces overflow width rest (start + word.length) used
      if cells + used ≤ width then following (used + cellCount word)
      else if width < cells then
        match overflow with
        | .fold =>
            let (places, last) := foldPlaces start (chop width (clusters word) [] 0)
            places ++ following last
        | .ellipsis =>
            (if start = 0 then [] else [start]) ++ following (cellCount word)
      else if used = 0 ∨ start = 0 then following used
      else start :: following (cellCount word)

/-- The parts of a line between the given places. -/
def divideAt : (passed : Nat) → List Nat → List Char → List (List Char)
  | _, [], characters => [characters]
  | passed, place :: rest, characters =>
      characters.take (place - passed) :: divideAt place rest (characters.drop (place - passed))

/-- Drops blanks at the end of a line that has more characters than cells. -/
def dropExcess (width : Nat) (characters : List Char) : List Char :=
  let blanks := (characters.reverse.takeWhile Text.isBlank).length
  characters.take (characters.length - blanks.min (characters.length - width))

/--
The first clusters, as many as take the given number of cells. A space stands
for a cluster of which only a part would fit.
-/
def cutClusters : (width : Nat) → List Cluster → List Char
  | 0, _ => []
  | _, [] => []
  | width, cluster :: rest =>
      if width < cluster.cells then [' ']
      else cluster.characters ++ cutClusters (width - cluster.cells) rest

/-- The first characters, as many as take the given number of cells. -/
def cut (width : Nat) (characters : List Char) : List Char :=
  cutClusters width (clusters characters)

/-- A line that is not wider than its place. -/
def truncated (overflow : Overflow) (width : Nat) (characters : List Char) : List Char :=
  if cellCount characters ≤ width then characters
  else
    match overflow with
    | .fold => cut width characters
    | .ellipsis => cut (width - 1) characters ++ ['…']

def aligned (alignment : Alignment) (overflow : Overflow) (width : Nat) (characters : List Char) :
    List Char :=
  match alignment with
  | .loose => truncated overflow width characters
  | .left => padRight width (truncated overflow width characters)
  | .right => padLeft width (truncated overflow width (trimmedRight characters))
  | .centre =>
      let line := truncated overflow width (trimmedRight characters)
      padRight width (spaces ((width - cellCount line) / 2) ++ line)

/--
Characters between tabs, each but the last with spaces that lead to the next
column that is a multiple of eight.
-/
def tabulated : (column : Nat) → (first : List Char) → List (List Char) → List Char
  | _, first, [] => first
  | column, first, second :: rest =>
      let field := first ++ [' ']
      let reached := column + cellCount field
      let gap := (8 - reached % 8) % 8
      field ++ spaces gap ++ tabulated (reached + gap) second rest

/-- A tab leads to the next column that is a multiple of eight. -/
def expandTabs (characters : List Char) : List Char :=
  let (first, others) := Text.split '\t' characters
  tabulated 0 first others

/-- The lines that one line of a text takes. -/
def wrapLine (overflow : Overflow) (alignment : Alignment) (width : Nat) (line : List Char) :
    List (List Char) :=
  let line := expandTabs line
  let words := spacedWords (line.length + 1) line
  (divideAt 0 (breakPlaces overflow width words 0 0) line).map fun part =>
    aligned alignment overflow width (dropExcess width part)

/-- The lines that a text takes in a place of the given width. -/
def wrap (overflow : Overflow) (alignment : Alignment) (width : Nat) (text : List Char) :
    List (List Char) :=
  let (first, others) := Text.split '\n' text
  (first :: others).flatMap (wrapLine overflow alignment width)

end ClassLift.Terminal

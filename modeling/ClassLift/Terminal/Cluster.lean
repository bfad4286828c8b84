import ClassLift.Terminal.Cell

/-!
# Clusters of characters

Characters that follow each other can be shown as one: a mark joins the
character before it, a joiner makes one emoji of two, and the emoji selector
shows the character before it as an emoji, which may take a second cell. So a
text is counted, and cut, in clusters.
-/

namespace ClassLift.Terminal

/-- Joins the characters on both sides of it into one. -/
def joiner : Char := '\u200d'

/-- Shows the character before it as an emoji. -/
def emojiSelector : Char := '\ufe0f'

/-- The cells that the emoji selector adds to a character. -/
def selectorCells (base : Option Char) : Nat :=
  if base.any widensAsEmoji then 1 else 0

/-- How far a text is counted. -/
structure CellTally where
  cells : Nat
  /-- The last character that takes a cell, unless a selector has met it. -/
  base : Option Char
  /-- Does a joiner stand just before? -/
  joined : Bool

namespace CellTally

def empty : CellTally := ⟨0, none, false⟩

/-- Counts one more character. The character after a joiner takes no cell of its own. -/
def add (tally : CellTally) (character : Char) : CellTally :=
  if tally.joined then { tally with joined := false }
  else if character = joiner then { tally with joined := true }
  else if character = emojiSelector then
    ⟨tally.cells + selectorCells tally.base, none, false⟩
  else
    match cellsOf character with
    | 0 => tally
    | cells => ⟨tally.cells + cells, some character, false⟩

end CellTally

/-- How many cells characters take together. -/
def cellCount (characters : List Char) : Nat :=
  (characters.foldl CellTally.add CellTally.empty).cells

/-- Characters that are shown as one, and the cells they take. -/
structure Cluster where
  characters : List Char
  cells : Nat

/--
The clusters of a text of which the first is begun: `cluster` keeps its
characters in reverse. A joiner takes the next character into its cluster.
-/
def clustersAfter (cluster : Cluster) : (base : Option Char) → (joined : Bool) → List Char →
    List Cluster
  | _, _, [] => [⟨cluster.characters.reverse, cluster.cells⟩]
  | base, joined, character :: rest =>
      let grown (cells : Nat) : Cluster := ⟨character :: cluster.characters, cluster.cells + cells⟩
      if joined then clustersAfter (grown 0) base false rest
      else if character = joiner then clustersAfter (grown 0) base true rest
      else if character = emojiSelector then
        clustersAfter (grown (selectorCells base)) none false rest
      else
        match cellsOf character with
        | 0 => clustersAfter (grown 0) base false rest
        | cells =>
            ⟨cluster.characters.reverse, cluster.cells⟩ ::
              clustersAfter ⟨[character], cells⟩ (some character) false rest

/--
The clusters of a text. A mark, a joiner or a selector with which the text starts
has nothing to join, and is a cluster without cells.
-/
def clusters : List Char → List Cluster
  | [] => []
  | character :: rest =>
      match cellsOf character with
      | 0 => clustersAfter ⟨[character], 0⟩ none false rest
      | cells => clustersAfter ⟨[character], cells⟩ (some character) false rest

/-- The characters of clusters. -/
def joinClusters (parts : List Cluster) : List Char :=
  parts.flatMap Cluster.characters

/-- Every character is in one cluster, and they keep their order. -/
theorem joinClusters_clustersAfter (cluster : Cluster) (base : Option Char) (joined : Bool)
    (characters : List Char) :
    joinClusters (clustersAfter cluster base joined characters) =
      cluster.characters.reverse ++ characters := by
  induction characters generalizing cluster base joined with
  | nil => simp [clustersAfter, joinClusters]
  | cons character rest ih =>
    unfold clustersAfter
    dsimp only
    split
    · simp [ih]
    split
    · simp [ih]
    split
    · simp [ih]
    split
    · simp [ih]
    · rw [joinClusters, List.flatMap_cons, ← joinClusters, ih]
      simp

/-- A text is made of its clusters. -/
theorem joinClusters_clusters (characters : List Char) :
    joinClusters (clusters characters) = characters := by
  cases characters with
  | nil => rfl
  | cons character rest =>
    rw [clusters]
    split <;> simp [joinClusters_clustersAfter]

end ClassLift.Terminal

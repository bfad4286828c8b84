/-!
# Pieces of a text

Namespaces are divided by dots, paths by slashes, texts by line breaks, and words
by blank characters. This file has the ways in which a text is taken apart, and
what is left of it without the blank characters at its ends.

A text always has at least one piece between separators, so such a division gives
the first piece apart from the others. A blank character only ends a word, so a
text may have no words at all.
-/

namespace ClassLift.Text

/-! ### Separators -/

/-- The characters before the first separator, and the pieces between separators after it. -/
def split (separator : Char) : List Char → List Char × List (List Char)
  | [] => ([], [])
  | character :: rest =>
      let (piece, pieces) := split separator rest
      if character = separator then ([], piece :: pieces) else (character :: piece, pieces)

/-- The pieces between the separators of a text; without one the text is its only piece. -/
def pieces (separator : Char) (text : String) : List String :=
  let (first, others) := split separator text.toList
  (first :: others).map String.ofList

/-- The pieces with a separator between any two neighbours. -/
def joined (separator : Char) (pieces : List String) : String :=
  String.ofList ([separator].intercalate (pieces.map String.toList))

/-!
### Lines

Lines can end in a line feed, in a carriage return, or in both. Texts that are
read have all their line ends made equal first. What is shown to the user breaks
at further characters: those that feed a line or a page, those that separate
records, and the breaks of Unicode.
-/

/-- The lines of a text all end in a line feed, however they ended before. -/
def unifyBreaks : List Char → List Char
  | '\r' :: '\n' :: rest => '\n' :: unifyBreaks rest
  | '\r' :: rest => '\n' :: unifyBreaks rest
  | character :: rest => character :: unifyBreaks rest
  | [] => []

/-- What stands between the line feeds of a text. -/
def lines (text : String) : List String :=
  pieces '\n' text

/-- The lines of an input: the end of its last line starts no new one. -/
def inputLines (input : String) : List String :=
  let found := lines (String.ofList (unifyBreaks input.toList))
  if found.getLast? = some "" then found.dropLast else found

/-- The characters at which a shown text breaks. -/
def endsRow (character : Char) : Bool :=
  ['\n', '\r', '\x0b', '\x0c', '\x1c', '\x1d', '\x1e', '\u0085', '\u2028', '\u2029'].contains
    character

/-- The rows of a shown text. A break ends a row, so the last one starts no new row. -/
def rows : List Char → List (List Char)
  | [] => []
  | '\r' :: '\n' :: rest => [] :: rows rest
  | character :: rest =>
      if endsRow character then [] :: rows rest
      else
        match rows rest with
        | [] => [[character]]
        | row :: others => (character :: row) :: others

/-!
### Blank characters

The characters that are dropped from both ends of a text before it is read as a
name. Beyond Unicode's white space they include the four information
separators.
-/

/-- The code points that count as blank, as ranges with both ends included. -/
def blankRanges : List (Nat × Nat) :=
  [(0x09, 0x0d), (0x1c, 0x20), (0x85, 0x85), (0xa0, 0xa0), (0x1680, 0x1680), (0x2000, 0x200a),
   (0x2028, 0x2029), (0x202f, 0x202f), (0x205f, 0x205f), (0x3000, 0x3000)]

def isBlank (character : Char) : Bool :=
  blankRanges.any fun (first, last) => first ≤ character.toNat && character.toNat ≤ last

/-- The characters without the blank ones at both ends. -/
def trimmedChars (characters : List Char) : List Char :=
  ((characters.dropWhile isBlank).reverse.dropWhile isBlank).reverse

/-- The text without the blank characters at both ends. -/
def trimmed (text : String) : String :=
  String.ofList (trimmedChars text.toList)

/-- The runs of characters between blank ones. -/
def wordsOf : List Char → List (List Char)
  | [] => []
  | character :: rest =>
      if isBlank character then wordsOf rest
      else
        match rest.head?.any (fun next => !isBlank next), wordsOf rest with
        | true, word :: others => (character :: word) :: others
        | _, words => [character] :: words

end ClassLift.Text

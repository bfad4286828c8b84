/-!
# Places in a configuration text

Configuration files are written in YAML, where line and column matter. A cursor
is a place in a text: what comes next, and on which line and in which column it
stands.
-/

namespace ClassLift.Yaml

def isBreak (character : Char) : Bool :=
  character == '\n' || character == '\u0085' || character == '\u2028' || character == '\u2029'

def isSpaceOrTab (character : Char) : Bool :=
  character == ' ' || character == '\t'

def isBlankOrBreak (character : Char) : Bool :=
  isSpaceOrTab character || isBreak character

/-- The characters a text may hold. -/
def isAllowed (character : Char) : Bool :=
  let code := character.toNat
  code == 0x09 || code == 0x0a || code == 0x0d || (0x20 ≤ code && code ≤ 0x7e) || code == 0x85
    || (0xa0 ≤ code && code ≤ 0xd7ff) || (0xe000 ≤ code && code ≤ 0xfffd)
    || (0x10000 ≤ code && code ≤ 0x10ffff)

/-- Characters of names: letters, digits, the hyphen and the underscore. -/
def isNameChar (character : Char) : Bool :=
  character.isAlphanum || character == '-' || character == '_'

structure Cursor where
  rest : List Char
  index : Nat
  line : Nat
  column : Nat

namespace Cursor

def start (characters : List Char) : Cursor :=
  ⟨characters, 0, 0, 0⟩

def next? (cursor : Cursor) : Option Char :=
  cursor.rest.head?

/-- Whether the next character has the property; at the end there is none. -/
def nextIs (cursor : Cursor) (property : Char → Bool) : Bool :=
  cursor.rest.head?.any property

/-- Whether the next character has the property or the text ends. -/
def endOr (cursor : Cursor) (property : Char → Bool) : Bool :=
  cursor.rest.head?.all property

/-- The character some places ahead has the property, or the text ends before it. -/
def endOrAt (cursor : Cursor) (offset : Nat) (property : Char → Bool) : Bool :=
  (cursor.rest.drop offset).head?.all property

def atEnd (cursor : Cursor) : Bool :=
  cursor.rest.isEmpty

/-- Passes one character. A byte order mark takes no column. -/
def step (cursor : Cursor) : Cursor :=
  match cursor.rest with
  | [] => cursor
  | character :: rest =>
      if isBreak character then ⟨rest, cursor.index + 1, cursor.line + 1, 0⟩
      else if character = '\ufeff' then ⟨rest, cursor.index + 1, cursor.line, cursor.column⟩
      else ⟨rest, cursor.index + 1, cursor.line, cursor.column + 1⟩

def advance : Nat → Cursor → Cursor
  | 0, cursor => cursor
  | count + 1, cursor => advance count cursor.step

/-- The longest run of characters with the property, and the place after it. -/
def run (cursor : Cursor) (property : Char → Bool) : List Char × Cursor :=
  let characters := cursor.rest.takeWhile property
  (characters, cursor.advance characters.length)

def skip (cursor : Cursor) (property : Char → Bool) : Cursor :=
  (cursor.run property).2

def skipSpaces (cursor : Cursor) : Cursor :=
  cursor.skip (· == ' ')

/-- Passes a line break, if there is one, and says what it stands for in a text. -/
def lineBreak? (cursor : Cursor) : Option (Char × Cursor) :=
  match cursor.rest with
  | character :: _ =>
      if isBreak character then
        some (if character = '\u0085' then '\n' else character, cursor.step)
      else none
  | [] => none

/-- Passes blanks and a comment to the end of the line, where nothing else may stand. -/
def finishLine? (cursor : Cursor) : Option Cursor :=
  let cursor := cursor.skipSpaces
  let cursor := if cursor.nextIs (· == '#') then cursor.skip (fun c => !isBreak c) else cursor
  if cursor.atEnd then some cursor else cursor.lineBreak?.map Prod.snd

/-- Whether one of the two document markers stands here. -/
def atMarker (cursor : Cursor) (mark : Char) : Bool :=
  cursor.rest.take 3 == [mark, mark, mark] && cursor.endOrAt 3 isBlankOrBreak

def atDocumentMarker (cursor : Cursor) : Bool :=
  cursor.atMarker '-' || cursor.atMarker '.'

end Cursor

end ClassLift.Yaml

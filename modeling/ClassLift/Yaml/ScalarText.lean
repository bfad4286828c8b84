import ClassLift.Text.Shown
import ClassLift.Yaml.Cursor

/-!
# Texts of scalars

Scalars are written plainly, between single or double quotes, or as blocks of
indented lines. Line breaks inside them are folded: one break stands for a
space, and each further one for itself.
-/

namespace ClassLift.Yaml

/-- A scalar that was read, and the place after it. -/
structure Scanned where
  text : List Char
  cursor : Cursor

/-- What a folded line break and the breaks after it stand for. -/
def foldBreaks (first : Char) (others : List Char) : List Char :=
  if first ≠ '\n' then first :: others
  else if others.isEmpty then [' ']
  else others

namespace Quoted

/-- The empty lines after a line break; a document marker must not stand among them. -/
def breaks : Nat → Cursor → Option (List Char × Cursor)
  | 0, _ => none
  | fuel + 1, cursor =>
      if cursor.atDocumentMarker then none
      else
        let cursor := cursor.skip isSpaceOrTab
        match cursor.lineBreak? with
        | none => some ([], cursor)
        | some (character, cursor) => do
            let (others, cursor) ← breaks fuel cursor
            return (character :: others, cursor)

/-- Blanks inside quotes: kept within a line, folded around a line break. -/
def blanks (fuel : Nat) (cursor : Cursor) : Option (List Char × Cursor) := do
  let (spaces, cursor) := cursor.run isSpaceOrTab
  if cursor.atEnd then none
  match cursor.lineBreak? with
  | none => return (spaces, cursor)
  | some (first, cursor) =>
      let (others, cursor) ← breaks fuel cursor
      return (foldBreaks first others, cursor)

/-- The characters that one-letter escapes stand for. -/
def escapes : List (Char × Char) :=
  [('0', '\x00'), ('a', '\x07'), ('b', '\x08'), ('t', '\t'), ('\t', '\t'), ('n', '\n'),
   ('v', '\x0b'), ('f', '\x0c'), ('r', '\r'), ('e', '\x1b'), (' ', ' '), ('"', '"'), ('\\', '\\'),
   ('/', '/'), ('N', '\u0085'), ('_', '\u00a0'), ('L', '\u2028'), ('P', '\u2029')]

/-- How many hexadecimal digits follow an escape of a code point. -/
def codeLength? : Char → Option Nat
  | 'x' => some 2
  | 'u' => some 4
  | 'U' => some 8
  | _ => none

def hexDigit? (character : Char) : Option Nat :=
  if '0' ≤ character ∧ character ≤ '9' then some (character.toNat - '0'.toNat)
  else if 'a' ≤ character ∧ character ≤ 'f' then some (character.toNat - 'a'.toNat + 10)
  else if 'A' ≤ character ∧ character ≤ 'F' then some (character.toNat - 'A'.toNat + 10)
  else none

/-- The number that the next digits spell. -/
def code? (length : Nat) (cursor : Cursor) : Option (Nat × Cursor) := do
  let digits := cursor.rest.take length
  if digits.length < length then none
  let code ← digits.foldlM (fun value digit => (16 * value + ·) <$> hexDigit? digit) 0
  return (code, cursor.advance length)

/-- The code points of a quoted text, and the place after it. -/
structure Codes where
  codes : List Nat
  cursor : Cursor

/-- Puts characters in front of a text. -/
def Codes.append (characters : List Char) (text : Codes) : Codes :=
  { text with codes := characters.map Char.toNat ++ text.codes }

/-- The first number that is no code point. -/
def firstBeyond : Nat :=
  0x110000

/-- What a backslash inside double quotes leads to: numbers, of which one may be no code point. -/
def escape (fuel : Nat) (cursor : Cursor) : Option Codes :=
  match cursor.next? with
  | none => none
  | some letter =>
      match escapes.lookup letter, codeLength? letter with
      | some character, _ => some ⟨[character.toNat], cursor.step⟩
      | none, some length => do
          let (code, cursor) ← code? length cursor.step
          return ⟨[code], cursor⟩
      | none, none =>
          match cursor.lineBreak? with
          | some (_, cursor) => do
              let (characters, cursor) ← breaks fuel cursor
              return ⟨characters.map Char.toNat, cursor⟩
          | none => none

/-- The text up to the closing quote, or up to an escape that is no code point. -/
def content (double : Bool) : Nat → Cursor → Option Codes
  | 0, _ => none
  | fuel + 1, cursor =>
      match cursor.rest with
      | [] => none
      | character :: others =>
          if character = '\'' ∧ !double then
            if others.head? = some '\'' then
              (content double fuel (cursor.advance 2)).map (·.append ['\''])
            else some ⟨[], cursor.step⟩
          else if character = '"' ∧ double then some ⟨[], cursor.step⟩
          else if character = '\\' ∧ double then do
            let piece ← escape fuel cursor.step
            if piece.codes.any (firstBeyond ≤ ·) then return piece
            let text ← content double fuel piece.cursor
            return { text with codes := piece.codes ++ text.codes }
          else if isBlankOrBreak character then do
            let (piece, cursor) ← blanks fuel cursor
            (content double fuel cursor).map (·.append piece)
          else (content double fuel cursor.step).map (·.append [character])

/-- A quoted scalar, read from its opening quote. -/
def scan (double : Bool) (cursor : Cursor) : Option Codes :=
  content double (cursor.rest.length + 1) cursor.step

end Quoted

/-!
Escapes can also spell lone surrogates, which are code points but no characters.
In a text that holds some of them, the last private-use characters stand for
them, one for each.
-/

namespace Surrogate

def first : Nat :=
  0xd800

def last : Nat :=
  0xdfff

/-- The character that stands for the first surrogate. -/
def firstSubstitute : Nat :=
  0x10f800

def isSurrogate (code : Nat) : Bool :=
  first ≤ code && code ≤ last

/-- The character of a code point, or the one that stands for a surrogate. -/
def charOf (code : Nat) : Char :=
  Char.ofNat (if isSurrogate code then code - first + firstSubstitute else code)

/-- How a text with surrogates is shown: they are escaped by their numbers. -/
def shown (text : List Char) : String :=
  let quote := Text.quoteFor text
  let escaped (character : Char) : List Char :=
    if firstSubstitute ≤ character.toNat then
      '\\' :: 'u' :: Text.hexadecimal 4 (character.toNat - firstSubstitute + first)
    else Text.escaped quote character
  String.ofList (quote :: text.flatMap escaped ++ [quote])

end Surrogate

namespace Plain

/-- The blanks after a word: folded breaks, whether there was one, and whether a marker ends it. -/
structure Gap where
  text : List Char
  cursor : Cursor
  broke : Bool

/-- Empty lines and indentation; nothing at a document marker. -/
def emptyLines : Nat → Cursor → List Char → Cursor × Option (List Char)
  | 0, cursor, seen => (cursor, some seen.reverse)
  | fuel + 1, cursor, seen =>
      let cursor := cursor.skipSpaces
      match cursor.lineBreak? with
      | none => (cursor, some seen.reverse)
      | some (character, cursor) =>
          if cursor.atDocumentMarker then (cursor, none)
          else emptyLines fuel cursor (character :: seen)

/-- The gap after a word of a plain scalar; it is empty at a document marker. -/
def gap (fuel : Nat) (cursor : Cursor) : Gap :=
  let (spaces, cursor) := cursor.run (· == ' ')
  match cursor.lineBreak? with
  | none => ⟨spaces, cursor, false⟩
  | some (first, cursor) =>
      if cursor.atDocumentMarker then ⟨[], cursor, true⟩
      else
        match emptyLines fuel cursor [] with
        | (cursor, some others) => ⟨foldBreaks first others, cursor, true⟩
        | (cursor, none) => ⟨[], cursor, true⟩

def isFlowIndicator (character : Char) : Bool :=
  character == ',' || character == '[' || character == ']' || character == '\x7b'
    || character == '\x7d'

/-- The word that stands here: it ends at a blank, and at the signs that end a scalar. -/
def word (inFlow : Bool) : List Char → List Char
  | [] => []
  | character :: rest =>
      if isBlankOrBreak character then []
      else if character = ':'
          ∧ rest.head?.all (fun next => isBlankOrBreak next || (inFlow && isFlowIndicator next)) then
        []
      else if inFlow ∧ (isFlowIndicator character || character == '?') then []
      else character :: word inFlow rest

/--
A plain scalar whose lines are indented by at least `indent`, and whether a line
break follows its last word. What was seen so far is kept in pieces, the last one
first.
-/
def content (inFlow : Bool) (indent : Int) :
    Nat → Cursor → (seen : List (List Char)) → (spaces : List Char) → (broke : Bool) →
      Scanned × Bool
  | 0, cursor, seen, _, broke => (⟨seen.reverse.flatten, cursor⟩, broke)
  | fuel + 1, cursor, seen, spaces, broke =>
      let characters := if cursor.nextIs (· == '#') then [] else word inFlow cursor.rest
      if characters.isEmpty then (⟨seen.reverse.flatten, cursor⟩, broke)
      else
        let seen := characters :: spaces :: seen
        let gap := gap (fuel + 1) (cursor.advance characters.length)
        if gap.text.isEmpty || gap.cursor.nextIs (· == '#')
            || (!inFlow && decide ((gap.cursor.column : Int) < indent)) then
          (⟨seen.reverse.flatten, gap.cursor⟩, gap.broke)
        else content inFlow indent fuel gap.cursor seen gap.text gap.broke

/-- A plain scalar; `fuel` is at least the number of characters that are left. -/
def scan (inFlow : Bool) (indent : Int) (fuel : Nat) (cursor : Cursor) : Scanned × Bool :=
  content inFlow indent (fuel + 1) cursor [] [] false

end Plain

namespace Block

/-- What happens to the line breaks at the end of a block. -/
inductive Chomping where
  | clip
  | strip
  | keep
deriving DecidableEq

structure Header where
  chomping : Chomping
  increment : Option Nat

def chomping? (cursor : Cursor) : Option (Chomping × Cursor) :=
  match cursor.next? with
  | some '+' => some (.keep, cursor.step)
  | some '-' => some (.strip, cursor.step)
  | _ => none

/-- An indentation indicator; zero is none. -/
def increment? (cursor : Cursor) : Option (Option (Nat × Cursor)) :=
  match cursor.next? with
  | some digit =>
      if digit = '0' then none
      else if digit.isDigit then some (some (digit.toNat - '0'.toNat, cursor.step))
      else some none
  | none => some none

/-- The indicators after the sign of a block, in either order, to the end of the line. -/
def header? (cursor : Cursor) : Option (Header × Cursor) := do
  let (header, cursor) ←
    match chomping? cursor with
    | some (chomping, cursor) => do
        match ← increment? cursor with
        | some (increment, cursor) => pure (⟨chomping, some increment⟩, cursor)
        | none => pure (⟨chomping, none⟩, cursor)
    | none => do
        match ← increment? cursor with
        | some (increment, cursor) =>
            match chomping? cursor with
            | some (chomping, cursor) => pure (⟨chomping, some increment⟩, cursor)
            | none => pure (⟨.clip, some increment⟩, cursor)
        | none => pure ((⟨.clip, none⟩ : Header), cursor)
  if !cursor.endOr (fun c => c == ' ' || isBreak c) then none
  let cursor ← cursor.finishLine?
  return (header, cursor)

/-- Passes up to `indent` columns of spaces. -/
def indentation (indent : Nat) (cursor : Cursor) : Cursor :=
  cursor.advance ((cursor.rest.takeWhile (· == ' ')).length.min (indent - cursor.column))

/-- The empty lines before the next line of the block. -/
def emptyLines (indent : Nat) : Nat → Cursor → List Char × Cursor
  | 0, cursor => ([], cursor)
  | fuel + 1, cursor =>
      let cursor := indentation indent cursor
      match cursor.lineBreak? with
      | none => ([], cursor)
      | some (character, cursor) =>
          let (others, cursor) := emptyLines indent fuel cursor
          (character :: others, cursor)

/-- Empty lines at the start of a block, and the greatest column their spaces reach. -/
def leadingLines : Nat → Cursor → Nat → List Char × Nat × Cursor
  | 0, cursor, widest => ([], widest, cursor)
  | fuel + 1, cursor, widest =>
      let cursor := cursor.skipSpaces
      let widest := widest.max cursor.column
      match cursor.lineBreak? with
      | none => ([], widest, cursor)
      | some (character, cursor) =>
          let (others, widest, cursor) := leadingLines fuel cursor widest
          (character :: others, widest, cursor)

/-- The lines of a block, with the breaks before each of them and those left at its end. -/
structure Lines where
  text : List Char
  lastBreak : List Char
  breaks : List Char
  cursor : Cursor

/-- Whether two lines are joined by a space: both must start with more than a blank. -/
def joins (folded : Bool) (lineBreak : Option Char) (leading : Bool) (cursor : Cursor) : Bool :=
  folded && lineBreak == some '\n' && leading && !cursor.nextIs isSpaceOrTab

def lines (folded : Bool) (indent : Nat) :
    Nat → Cursor → List Char → List Char → List Char → Lines
  | 0, cursor, seen, lastBreak, breaks => ⟨seen, lastBreak, breaks, cursor⟩
  | fuel + 1, cursor, seen, lastBreak, breaks =>
      if cursor.column ≠ indent || cursor.atEnd then ⟨seen, lastBreak, breaks, cursor⟩
      else
        let leading := !cursor.nextIs isSpaceOrTab
        let (line, cursor) := cursor.run (fun c => !isBreak c)
        let seen := seen ++ breaks ++ line
        let (lineBreak, cursor) :=
          match cursor.lineBreak? with
          | some (character, cursor) => (some character, cursor)
          | none => (none, cursor)
        let (breaks, cursor) := emptyLines indent (cursor.rest.length + 1) cursor
        if cursor.column = indent && !cursor.atEnd then
          let joint :=
            if joins folded lineBreak leading cursor then
              if breaks.isEmpty then [' '] else []
            else lineBreak.toList
          lines folded indent fuel cursor (seen ++ joint) lineBreak.toList breaks
        else ⟨seen, lineBreak.toList, breaks, cursor⟩

/-- A block scalar, read from its sign, inside a block indented by `outer`. -/
def scan (folded : Bool) (outer : Int) (cursor : Cursor) : Option Scanned := do
  let (header, cursor) ← header? cursor.step
  let least := (outer + 1).toNat.max 1
  let fuel := cursor.rest.length + 1
  let (indent, breaks, cursor) :=
    match header.increment with
    | some increment =>
        let indent := least + increment - 1
        let (breaks, cursor) := emptyLines indent fuel cursor
        (indent, breaks, cursor)
    | none =>
        let (breaks, widest, cursor) := leadingLines fuel cursor 0
        (least.max widest, breaks, cursor)
  let lines := lines folded indent fuel cursor [] [] breaks
  let ending :=
    match header.chomping with
    | .strip => []
    | .clip => lines.lastBreak
    | .keep => lines.lastBreak ++ lines.breaks
  return ⟨lines.text ++ ending, lines.cursor⟩

end Block

end ClassLift.Yaml

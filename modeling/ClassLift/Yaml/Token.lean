import ClassLift.Text.Pieces
import ClassLift.Yaml.Fault
import ClassLift.Yaml.ScalarText

/-!
# Tokens of configuration text

The structure of a text is given by its signs and by its indentation. The reader
turns both into tokens: it opens and closes blocks as the indentation grows and
shrinks, and when it meets a colon it puts the mark of a key in front of what
came before it on the same line. Where the text cannot be read any further, a
last token says why.
-/

namespace ClassLift.Yaml

/-- How a scalar is written, and whether its text holds surrogates. -/
inductive ScalarForm where
  | plain
  | quoted
  | broken
deriving DecidableEq

inductive Token where
  | version (major : Nat)
  | tagHandle (handle replacement : List Char)
  | otherDirective
  | documentStart
  | documentEnd
  | blockSequenceStart
  | blockMappingStart
  | blockEnd
  | flowSequenceStart
  | flowSequenceEnd
  | flowMappingStart
  | flowMappingEnd
  | blockEntry
  | flowEntry
  | key
  | value
  | alias (name : List Char)
  | anchor (name : List Char)
  | tag (handle : Option (List Char)) (suffix : List Char)
  | scalar (text : List Char) (form : ScalarForm)
  /-- The text cannot be read any further. -/
  | stop (fault : ReadFault)
deriving DecidableEq

/-- Something that may turn out to be a key: where its token stands and where it was found. -/
structure PossibleKey where
  position : Nat
  required : Bool
  index : Nat
  line : Nat
  column : Nat

/--
The reader between two tokens. The tokens it has found are kept with the last one
first, and counted. Only one possible key is kept for each level of brackets;
keys of outer levels wait until their brackets are closed.
-/
structure TokenReader where
  cursor : Cursor
  tokens : List Token
  count : Nat
  flowLevel : Nat
  indent : Int
  outerIndents : List Int
  keyAllowed : Bool
  possibleKeys : List (Nat × PossibleKey)

namespace TokenReader

def start (characters : List Char) : TokenReader where
  cursor := .start characters
  tokens := []
  count := 0
  flowLevel := 0
  indent := -1
  outerIndents := []
  keyAllowed := true
  possibleKeys := []

def inFlow (reader : TokenReader) : Bool :=
  reader.flowLevel != 0

def push (reader : TokenReader) (token : Token) : TokenReader :=
  { reader with tokens := token :: reader.tokens, count := reader.count + 1 }

/-- Puts a token in front of those from the given position on. -/
def insert (reader : TokenReader) (position : Nat) (token : Token) : TokenReader :=
  { reader with
    tokens := reader.tokens.insertIdx (reader.count - position) token
    count := reader.count + 1 }

def column (reader : TokenReader) : Int :=
  reader.cursor.column

/-- Passes blanks, comments and line breaks; a new line may start with a key. -/
def skipToToken : Nat → TokenReader → TokenReader
  | 0, reader => reader
  | fuel + 1, reader =>
      let cursor := reader.cursor.skipSpaces
      let cursor := if cursor.nextIs (· == '#') then cursor.skip (fun c => !isBreak c) else cursor
      match cursor.lineBreak? with
      | some (_, cursor) =>
          skipToToken fuel
            { reader with cursor, keyAllowed := reader.keyAllowed || !reader.inFlow }
      | none => { reader with cursor }

/-- A key must end on the line it starts on, within 1024 characters. -/
def isStale (reader : TokenReader) (key : PossibleKey) : Bool :=
  key.line != reader.cursor.line || 1024 < reader.cursor.index - key.index

/-- Forgets possible keys that are out of reach; a required one must not be. -/
def dropStaleKeys? (reader : TokenReader) : Option TokenReader :=
  if reader.possibleKeys.any fun (_, key) => reader.isStale key && key.required then none
  else
    some { reader with
      possibleKeys := reader.possibleKeys.filter fun (_, key) => !reader.isStale key }

/-- Forgets the possible key of this level, which must not be a required one. -/
def dropKey? (reader : TokenReader) : Option TokenReader :=
  match reader.possibleKeys.lookup reader.flowLevel with
  | some key =>
      if key.required then none
      else
        some { reader with
          possibleKeys := reader.possibleKeys.filter fun (level, _) => level != reader.flowLevel }
  | none => some reader

/-- Notes that a key may start here. -/
def notePossibleKey? (reader : TokenReader) : Option TokenReader := do
  if !reader.keyAllowed then return reader
  let reader ← reader.dropKey?
  let key : PossibleKey := {
    position := reader.count
    required := !reader.inFlow && reader.indent == reader.column
    index := reader.cursor.index
    line := reader.cursor.line
    column := reader.cursor.column }
  return { reader with possibleKeys := (reader.flowLevel, key) :: reader.possibleKeys }

/-- Closes blocks from the innermost one outwards, as long as they are indented by more. -/
def closeInner (column : Int) : (outerIndents : List Int) → TokenReader → TokenReader
  | [], reader => reader
  | indent :: outerIndents, reader =>
      if column < reader.indent then
        closeInner column outerIndents ({ reader with indent, outerIndents }.push .blockEnd)
      else reader

/-- Closes the blocks that are indented by more than the column. -/
def closeBlocks (column : Int) (reader : TokenReader) : TokenReader :=
  if reader.inFlow then reader else closeInner column reader.outerIndents reader

/-- Opens a block at a column, at the given place among the tokens, if it is indented. -/
def openBlock (column : Int) (position : Nat) (token : Token) (reader : TokenReader) :
    TokenReader :=
  if reader.indent < column then
    { reader with
      indent := column
      outerIndents := reader.indent :: reader.outerIndents }.insert position token
  else reader

/-- Passes characters and adds a token. -/
def takeSign (count : Nat) (token : Token) (reader : TokenReader) : TokenReader :=
  { reader with cursor := reader.cursor.advance count }.push token

/-- Adds a token that was read up to the given place. -/
def takeToken (token : Token) (cursor : Cursor) (reader : TokenReader) : TokenReader :=
  { reader with cursor }.push token

/-- The number that the next digits spell. -/
def number? (cursor : Cursor) : Option (Nat × Cursor) :=
  let (digits, cursor) := cursor.run Char.isDigit
  if digits.isEmpty then none
  else some (digits.foldl (fun value digit => 10 * value + (digit.toNat - '0'.toNat)) 0, cursor)

def isTagChar (character : Char) : Bool :=
  character.isAlphanum || "-;/?:@&=+$,_.!~*'()[]%".toList.contains character

/-- A handle of tags: a name between exclamation marks, or one or two of them. -/
def tagHandle? (cursor : Cursor) : Option (List Char × Cursor) := do
  if cursor.next? ≠ some '!' then none
  let (name, after) := cursor.step.run isNameChar
  if after.next? = some '!' then some ('!' :: name ++ ['!'], after.step)
  else if name.isEmpty && cursor.step.next? == some ' ' then some (['!'], cursor.step)
  else none

/-- A byte that is written as a percent sign and two hexadecimal digits. -/
def escapedByte? (cursor : Cursor) : Option (UInt8 × Cursor) :=
  match cursor.rest with
  | '%' :: high :: low :: _ => do
      let value := 16 * (← Quoted.hexDigit? high) + (← Quoted.hexDigit? low)
      return (UInt8.ofNat value, cursor.advance 3)
  | _ => none

/-- The bytes that are written one after another. -/
def escapedBytes : Nat → Cursor → Option (List UInt8 × Cursor)
  | 0, _ => none
  | fuel + 1, cursor =>
      if cursor.next? = some '%' then do
        let (byte, cursor) ← escapedByte? cursor
        let (bytes, cursor) ← escapedBytes fuel cursor
        return (byte :: bytes, cursor)
      else some ([], cursor)

/-- The rest of the name of a tag; bytes in it spell characters. -/
def tagRest? : Nat → Cursor → Option (List Char × Cursor)
  | 0, _ => none
  | fuel + 1, cursor =>
      if cursor.next? = some '%' then do
        let (bytes, cursor) ← escapedBytes (cursor.rest.length + 1) cursor
        let text ← String.fromUTF8? (ByteArray.mk bytes.toArray)
        let (rest, cursor) ← tagRest? fuel cursor
        return (text.toList ++ rest, cursor)
      else if cursor.nextIs isTagChar then do
        let (run, cursor) := cursor.run fun c => isTagChar c && c != '%'
        let (rest, cursor) ← tagRest? fuel cursor
        return (run ++ rest, cursor)
      else some ([], cursor)

def tagSuffix? (cursor : Cursor) : Option (List Char × Cursor) := do
  if !cursor.nextIs isTagChar then none
  tagRest? (cursor.rest.length + 1) cursor

def isSpaceOrBreak (character : Char) : Bool :=
  character == ' ' || isBreak character

/-- A directive, from its sign to the end of the line. -/
def directive? (cursor : Cursor) : Option (Token × Cursor) := do
  let (name, cursor) := cursor.step.run isNameChar
  if name.isEmpty || !cursor.endOr isSpaceOrBreak then none
  let (token, cursor) ←
    if name = "YAML".toList then do
      let (major, cursor) ← number? cursor.skipSpaces
      if cursor.next? ≠ some '.' then none
      let (_, cursor) ← number? cursor.step
      if !cursor.endOr isSpaceOrBreak then none
      pure (Token.version major, cursor)
    else if name = "TAG".toList then do
      let (handle, cursor) ← tagHandle? cursor.skipSpaces
      if cursor.next? ≠ some ' ' then none
      let (replacement, cursor) ← tagSuffix? cursor.skipSpaces
      if !cursor.endOr isSpaceOrBreak then none
      pure (Token.tagHandle handle replacement, cursor)
    else pure (Token.otherDirective, cursor.skip (fun c => !isBreak c))
  let cursor ← cursor.finishLine?
  return (token, cursor)

/-- The name of an anchor or alias, from its sign. -/
def anchorName? (cursor : Cursor) : Option (List Char × Cursor) :=
  let (name, cursor) := cursor.step.run isNameChar
  let ends (character : Char) : Bool :=
    isBlankOrBreak character || "?:,]\x7d%@\x60".toList.contains character
  if name.isEmpty || !cursor.endOr ends then none else some (name, cursor)

/-- A tag, from its sign. -/
def tag? (cursor : Cursor) : Option (Token × Cursor) := do
  let after := cursor.step
  let (token, cursor) ←
    if after.next? = some '<' then do
      let (suffix, cursor) ← tagSuffix? after.step
      if cursor.next? ≠ some '>' then none
      pure (Token.tag none suffix, cursor.step)
    else if after.endOr isBlankOrBreak then pure (Token.tag none ['!'], after)
    else if (after.rest.takeWhile (fun c => !isSpaceOrBreak c)).contains '!' then do
      let (handle, cursor) ← tagHandle? cursor
      let (suffix, cursor) ← tagSuffix? cursor
      pure (Token.tag (some handle) suffix, cursor)
    else do
      let (suffix, cursor) ← tagSuffix? after
      pure (Token.tag (some ['!']) suffix, cursor)
  if cursor.endOr isSpaceOrBreak then some (token, cursor) else none

/-- Whether a plain scalar can start here. -/
def startsPlain (reader : TokenReader) : Bool :=
  match reader.cursor.rest with
  | [] => false
  | character :: rest =>
      let isSign := isBlankOrBreak character
        || "-?:,[]\x7b\x7d#&*!|>'\"%@\x60".toList.contains character
      let joined := !rest.head?.all isBlankOrBreak
      !isSign || (joined && (character == '-'
        || (!reader.inFlow && (character == '?' || character == ':'))))

/-- A sign that stands alone: in brackets always, elsewhere before a blank. -/
def standsAlone (reader : TokenReader) : Bool :=
  reader.inFlow || reader.cursor.endOrAt 1 isBlankOrBreak

def documentMark? (token : Token) (reader : TokenReader) : Option TokenReader := do
  let reader ← (reader.closeBlocks (-1)).dropKey?
  return { reader with keyAllowed := false }.takeSign 3 token

def openBracket? (token : Token) (reader : TokenReader) : Option TokenReader := do
  let reader ← reader.notePossibleKey?
  return { reader with flowLevel := reader.flowLevel + 1, keyAllowed := true }.takeSign 1 token

def closeBracket? (token : Token) (reader : TokenReader) : Option TokenReader := do
  let reader ← reader.dropKey?
  if !reader.inFlow then none
  return { reader with flowLevel := reader.flowLevel - 1, keyAllowed := false }.takeSign 1 token

/-- Before an entry or a key that opens a block: only where a key is allowed. -/
def openBlockHere? (token : Token) (reader : TokenReader) : Option TokenReader :=
  if reader.inFlow then some reader
  else if reader.keyAllowed then
    some (reader.openBlock reader.column reader.count token)
  else none

def entry? (reader : TokenReader) : Option TokenReader := do
  let reader ← reader.openBlockHere? .blockSequenceStart
  let reader ← { reader with keyAllowed := true }.dropKey?
  return reader.takeSign 1 .blockEntry

def explicitKey? (reader : TokenReader) : Option TokenReader := do
  let reader ← reader.openBlockHere? .blockMappingStart
  let reader ← { reader with keyAllowed := !reader.inFlow }.dropKey?
  return reader.takeSign 1 .key

/-- A colon: what may be a key before it becomes one. -/
def colon? (reader : TokenReader) : Option TokenReader := do
  match reader.possibleKeys.lookup reader.flowLevel with
  | some key =>
      let reader := { reader with
        possibleKeys := reader.possibleKeys.filter fun (level, _) => level != reader.flowLevel
        keyAllowed := false }
      let reader := reader.insert key.position .key
      let reader :=
        if reader.inFlow then reader
        else reader.openBlock key.column key.position .blockMappingStart
      return reader.takeSign 1 .value
  | none =>
      let reader ← reader.openBlockHere? .blockMappingStart
      let reader ← { reader with keyAllowed := !reader.inFlow }.dropKey?
      return reader.takeSign 1 .value

/-- Something that may be a key and is read to a token. -/
def keyLike? (read : Cursor → Option (Token × Cursor)) (reader : TokenReader) :
    Option TokenReader := do
  let reader ← reader.notePossibleKey?
  let (token, cursor) ← read reader.cursor
  return { reader with keyAllowed := false }.takeToken token cursor

def blockScalar? (folded : Bool) (reader : TokenReader) : Option TokenReader := do
  let reader ← { reader with keyAllowed := true }.dropKey?
  let scanned ← Block.scan folded reader.indent reader.cursor
  return reader.takeToken (.scalar scanned.text .quoted) scanned.cursor

def plainScalar? (fuel : Nat) (reader : TokenReader) : Option TokenReader := do
  let reader ← reader.notePossibleKey?
  let (scanned, broke) := Plain.scan reader.inFlow (reader.indent + 1) fuel reader.cursor
  return { reader with keyAllowed := broke }.takeToken (.scalar scanned.text .plain) scanned.cursor

/-- The token of a quoted text, unless it has an escape that is no code point. -/
def quotedToken (codes : List Nat) : Token :=
  match codes.find? (Quoted.firstBeyond ≤ ·) with
  | some code => .stop (if code < Nat.pow 2 31 then .beyondUnicode else .beyondNumbers)
  | none =>
      .scalar (codes.map Surrogate.charOf)
        (if codes.any Surrogate.isSurrogate then .broken else .quoted)

def quoted? (double : Bool) (cursor : Cursor) : Option (Token × Cursor) :=
  (Quoted.scan double cursor).map fun text => (quotedToken text.codes, text.cursor)

/-- The token that starts with the given character; `fuel` bounds the characters that are left. -/
def readToken? (fuel : Nat) (character : Char) (reader : TokenReader) : Option TokenReader :=
  let cursor := reader.cursor
  let lineStart := cursor.column == 0
  if character = '%' ∧ lineStart then do
    let reader ← (reader.closeBlocks (-1)).dropKey?
    let (token, cursor) ← directive? reader.cursor
    return { reader with keyAllowed := false }.takeToken token cursor
  else if lineStart ∧ cursor.atMarker '-' then reader.documentMark? .documentStart
  else if lineStart ∧ cursor.atMarker '.' then reader.documentMark? .documentEnd
  else if character = '[' then reader.openBracket? .flowSequenceStart
  else if character = '\x7b' then reader.openBracket? .flowMappingStart
  else if character = ']' then reader.closeBracket? .flowSequenceEnd
  else if character = '\x7d' then reader.closeBracket? .flowMappingEnd
  else if character = ',' then do
    let reader ← { reader with keyAllowed := true }.dropKey?
    return reader.takeSign 1 .flowEntry
  else if character = '-' ∧ cursor.endOrAt 1 isBlankOrBreak then reader.entry?
  else if character = '?' ∧ reader.standsAlone then reader.explicitKey?
  else if character = ':' ∧ reader.standsAlone then reader.colon?
  else if character = '*' then
    reader.keyLike? fun cursor => (anchorName? cursor).map fun (name, cursor) =>
      (.alias name, cursor)
  else if character = '&' then
    reader.keyLike? fun cursor => (anchorName? cursor).map fun (name, cursor) =>
      (.anchor name, cursor)
  else if character = '!' then reader.keyLike? tag?
  else if character = '|' ∧ !reader.inFlow then reader.blockScalar? false
  else if character = '>' ∧ !reader.inFlow then reader.blockScalar? true
  else if character = '\'' then reader.keyLike? (quoted? false)
  else if character = '"' then reader.keyLike? (quoted? true)
  else if reader.startsPlain then reader.plainScalar? fuel
  else none

/-- Passes what stands before the next token. -/
def approach? (fuel : Nat) (reader : TokenReader) : Option TokenReader := do
  let reader ← (reader.skipToToken fuel).dropStaleKeys?
  return reader.closeBlocks reader.column

/-- The end of a text closes all blocks. -/
def finish? (reader : TokenReader) : Option TokenReader :=
  (reader.closeBlocks (-1)).dropKey?

/-- The tokens up to a fault. What may still turn out to be a key is not told before it. -/
def stopped (reader : TokenReader) (fault : ReadFault) : List Token :=
  let told := reader.possibleKeys.foldl
    (fun count (_, key) => if reader.isStale key then count else count.min key.position)
    reader.count
  (.stop fault :: reader.tokens.drop (reader.count - told)).reverse

/--
Reads tokens to the end of the text, or to a fault. Each of them has a character
at least, so the fuel bounds the characters that are left.
-/
def readAll : (fuel : Nat) → TokenReader → List Token
  | 0, reader => reader.stopped .malformed
  | fuel + 1, reader =>
      match reader.approach? (fuel + 1) with
      | none => reader.stopped .malformed
      | some here =>
          match here.cursor.next? with
          | none =>
              match here.finish? with
              | some ended => ended.tokens.reverse
              | none => reader.stopped .malformed
          | some character =>
              match here.readToken? (fuel + 1) character with
              | none => reader.stopped .malformed
              | some next =>
                  match next.tokens.head? with
                  | some (.stop fault) => reader.stopped fault
                  | _ => readAll fuel next

end TokenReader

/-- The tokens of a text. A byte order mark in front of it is passed over. -/
def Token.ofChars (characters : List Char) : List Token :=
  let characters := Text.unifyBreaks characters
  if characters.all isAllowed then
    let reader := TokenReader.start characters
    let reader :=
      if characters.head? = some '\ufeff' then { reader with cursor := reader.cursor.step }
      else reader
    reader.readAll (characters.length + 1)
  else [.stop .malformed]

end ClassLift.Yaml

import ClassLift.Terminal.Emoji
import ClassLift.Terminal.Literal
import ClassLift.Terminal.Style

/-!
# Text with markup

What is shown to the user passes through a console that takes words in brackets
for styles. Without colours a style leaves no trace, so such words vanish from
the text. A style is closed by its name after a slash, or by a slash alone; to
close what is not open is a fault.
-/

namespace ClassLift.Terminal

/-- Why a text cannot be shown. -/
inductive MarkupFault where
  /-- A style is closed that is not open. The complaint about it has the same fault. -/
  | unopened
  /-- The parameters of a style cannot be read. -/
  | unreadable
deriving DecidableEq

/-- A part of a text: characters to be shown, or a style with its parameters. -/
inductive Piece where
  | plain (characters : List Char)
  | style (name : List Char) (parameters : Option (List Char))

namespace Piece

/-- The characters a style can start with. -/
def startsStyle (character : Char) : Bool :=
  ('a' ≤ character && character ≤ 'z') || character == '#' || character == '/' || character == '@'

/-- The text of a style, read after its opening bracket, and what follows its closing one. -/
def style? (characters : List Char) : Option (List Char × List Char) :=
  match characters with
  | [] => none
  | first :: rest =>
      if startsStyle first then
        let inside := rest.takeWhile fun character => character != '[' && character != ']'
        match rest.drop inside.length with
        | ']' :: after => some (first :: inside, after)
        | _ => none
      else none

/-- A style from its text; what follows an equals sign are its parameters. -/
def ofStyle (text : List Char) : Piece :=
  let name := text.takeWhile (· != '=')
  match text.drop name.length with
  | _ :: parameters => .style name (some parameters)
  | [] => .style name none

/-- Characters to be shown, unless there are none. -/
def ofPlain (characters : List Char) : List Piece :=
  if characters.isEmpty then [] else [.plain characters]

/-- A style after backslashes: each two of them stand for one, and an odd one keeps the brackets. -/
def ofEscaped (slashes : Nat) (inside : List Char) : List Piece :=
  ofPlain (List.replicate (slashes / 2) '\\')
    ++ [if slashes % 2 = 1 then .plain ('[' :: inside ++ [']']) else ofStyle inside]

/-- The pieces of a text, after characters that were already passed. -/
def split : (fuel : Nat) → (passed : List Char) → List Char → List Piece
  | 0, passed, characters => ofPlain (passed.reverse ++ characters)
  | _ + 1, passed, [] => ofPlain passed.reverse
  | fuel + 1, passed, character :: rest =>
      let slashes := ((character :: rest).takeWhile (· == '\\')).length
      match (character :: rest).drop slashes with
      | '[' :: after =>
          match style? after with
          | some (inside, others) =>
              ofPlain passed.reverse ++ ofEscaped slashes inside ++ split fuel [] others
          | none =>
              split fuel ('[' :: List.replicate slashes '\\' ++ passed) after
      | [] => ofPlain (passed.reverse ++ List.replicate slashes '\\')
      | next :: others => split fuel (next :: List.replicate slashes '\\' ++ passed) others

def ofText (text : List Char) : List Piece :=
  split (text.length + 1) [] text

end Piece

/-- A backslash before a bracket is not shown. -/
def dropEscapes : List Char → List Char
  | '\\' :: '[' :: rest => '[' :: dropEscapes rest
  | character :: rest => character :: dropEscapes rest
  | [] => []

/-- The control characters that a console does not pass on. -/
def isDropped (character : Char) : Bool :=
  ['\x07', '\x08', '\x0b', '\x0c', '\r'].contains character

def withoutControls (characters : List Char) : List Char :=
  characters.filter fun character => !isDropped character

/-- A style that is open: its name in normal form, and its parameters. -/
structure OpenStyle where
  name : String
  parameters : Option (List Char)

namespace OpenStyle

def isHandler (style : OpenStyle) : Bool :=
  style.name.toList.head? == some '@'

def isNameChar (character : Char) : Bool :=
  character.isAlphanum || character == '_' || character == '.'
    || 0x7f < character.toNat && !Text.isBlank character

/-- A handler is called with what stands in brackets after its name, or with nothing. -/
def handlerParameters (text : List Char) : List Char :=
  let name := text.takeWhile isNameChar
  match text.drop name.length with
  | [] => "()".toList
  | rest =>
      if rest.head? == some '(' && rest.getLast? == some ')' && !rest.contains '\n' then rest
      else text

/-- What a handler is called with must be literal. -/
def hasLiteralParameters (style : OpenStyle) : Bool :=
  match style.parameters with
  | none | some [] => true
  | some parameters => Literal.isLiteral (handlerParameters (Text.trimmedChars parameters))

/-- Whether the name and the parameters can be read as a style, if need be as an unknown one. -/
def isReadable (style : OpenStyle) : Bool :=
  let text := style.name.toList ++ (style.parameters.map (' ' :: ·)).getD []
  (Style.normalised? text).isSome

end OpenStyle

/-- A text that is being shown: what is seen so far, and the styles that are open. -/
structure Rendering where
  shown : List Char
  openStyles : List OpenStyle
  readable : Bool

namespace Rendering

/-- Takes the first style out of a list for which the test holds. -/
def takeOut (test : OpenStyle → Bool) : List OpenStyle → Option (OpenStyle × List OpenStyle)
  | [] => none
  | style :: rest =>
      if test style then some (style, rest)
      else (takeOut test rest).map fun (found, others) => (found, style :: others)

/-- Closes the innermost style for which the test holds. -/
def close (rendering : Rendering) (test : OpenStyle → Bool) : Except MarkupFault Rendering :=
  match takeOut test rendering.openStyles with
  | none => .error .unopened
  | some (style, others) =>
      if style.isHandler then
        if style.hasLiteralParameters then .ok { rendering with openStyles := others }
        else .error .unreadable
      else
        .ok { rendering with
          openStyles := others
          readable := rendering.readable && style.isReadable }

/-- The normal form of the name of a style. -/
def normalName (name : List Char) : Except MarkupFault String :=
  match Style.normalised? name with
  | some name => .ok name
  | none => .error .unreadable

def addStyle (rendering : Rendering) (name : List Char) (parameters : Option (List Char)) :
    Except MarkupFault Rendering := do
  match name with
  | '/' :: closed =>
      let closed := Text.trimmedChars closed
      if closed.isEmpty then rendering.close fun _ => true
      else
        let closed ← normalName closed
        rendering.close fun style => style.name == closed
  | _ =>
      let name ← normalName name
      return { rendering with openStyles := ⟨name, parameters⟩ :: rendering.openStyles }

def add (rendering : Rendering) : Piece → Except MarkupFault Rendering
  | .plain characters =>
      .ok { rendering with
        shown := rendering.shown ++ withoutControls (withEmoji (dropEscapes characters)) }
  | .style name parameters => rendering.addStyle name parameters

end Rendering

/-- A text as it is seen on a console without colours. -/
def render (text : List Char) : Except MarkupFault (List Char) := do
  if !text.contains '[' then return withoutControls (withEmoji text)
  let rendering ← (Piece.ofText text).foldlM Rendering.add ⟨[], [], true⟩
  if rendering.readable && rendering.openStyles.all (·.isReadable) then return rendering.shown
  else throw .unreadable

/-!
### Control sequences

A terminal is told colours and movements by sequences that start with an escape
character and a bracket. What is printed as a question has none of them.
-/

def isSequenceParameter (character : Char) : Bool :=
  character.isDigit || character == ';' || character == '?'

/-- What follows a control sequence, read after its escape character and bracket. -/
def afterSequence? (characters : List Char) : Option (List Char) :=
  match characters.dropWhile isSequenceParameter with
  | last :: rest => if last.isAlpha then some rest else none
  | [] => none

/-- Drops control sequences, as many characters at most as the fuel. -/
def dropSequences : (fuel : Nat) → List Char → List Char
  | 0, characters => characters
  | _ + 1, [] => []
  | fuel + 1, '\x1b' :: '[' :: rest =>
      match afterSequence? rest with
      | some others => dropSequences fuel others
      | none => '\x1b' :: dropSequences fuel ('[' :: rest)
  | fuel + 1, character :: rest => character :: dropSequences fuel rest

/-- A text without control sequences. -/
def withoutSequences (text : String) : String :=
  String.ofList (dropSequences text.length text.toList)

end ClassLift.Terminal

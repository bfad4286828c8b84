import ClassLift.Terminal.EmojiNames
import ClassLift.Text.Case
import ClassLift.Text.Pieces

/-!
# Emoji codes

In console text a name between two colons stands for an emoji. The name may be
followed by a hyphen and a word that asks for the emoji as text or as a picture;
a selector after the emoji then says so.
-/

namespace ClassLift.Terminal

/-- Neighbouring words as pairs. -/
def pairUp : List String → List (String × String)
  | first :: second :: rest => (first, second) :: pairUp rest
  | _ => []

/-- The names of emoji, each with what it is shown as. -/
def emojiPairs : List (String × String) :=
  emojiLines.flatMap fun line => pairUp (Text.pieces ' ' line)

/-- The emoji of a name. -/
def emoji? (name : String) : Option String :=
  emojiPairs.lookup name

/-- The words that choose how an emoji is shown, and the selectors they stand for. -/
def variants : List (List Char × Char) :=
  [("-emoji".toList, '\ufe0f'), ("-text".toList, '\ufe0e')]

/-- What follows the given characters, if the text starts with them. -/
def after? (start text : List Char) : Option (List Char) :=
  if text.take start.length == start then some (text.drop start.length) else none

/-- A code, as it is read after its first colon, and the text after its last one. -/
structure EmojiCode where
  name : List Char
  variant : Option (List Char × Char)
  rest : List Char

/-- The end of a code: a colon, perhaps with a variant in front of it. -/
def codeEnd? (text : List Char) : Option (Option (List Char × Char) × List Char) :=
  match text with
  | ':' :: rest => some (none, rest)
  | _ =>
      variants.findSome? fun variant =>
        (after? (variant.1 ++ [':']) text).map (some variant, ·)

/-- The shortest code that starts here; a name has no blank in it. -/
def readCode? : List Char → Option EmojiCode
  | [] => none
  | character :: rest =>
      match codeEnd? (character :: rest) with
      | some (variant, others) => some ⟨[], variant, others⟩
      | none =>
          if Text.isBlank character then none
          else (readCode? rest).map fun code => { code with name := character :: code.name }

/-- What a code is shown as: the emoji, or the code itself if its name is unknown. -/
def EmojiCode.shown (code : EmojiCode) : List Char :=
  match emoji? (String.ofList (Text.lowered code.name)) with
  | some emoji => emoji.toList ++ (code.variant.map Prod.snd).toList
  | none => ':' :: code.name ++ (code.variant.map Prod.fst).getD [] ++ [':']

/-- The text with emoji in the place of their codes; `fuel` bounds the number of steps. -/
def showEmoji : (fuel : Nat) → List Char → List Char
  | 0, text => text
  | _ + 1, [] => []
  | fuel + 1, ':' :: rest =>
      match readCode? rest with
      | some code => code.shown ++ showEmoji fuel code.rest
      | none => ':' :: showEmoji fuel rest
  | fuel + 1, character :: rest => character :: showEmoji fuel rest

/-- The text with emoji in the place of their codes. -/
def withEmoji (text : List Char) : List Char :=
  showEmoji (text.length + 1) text

end ClassLift.Terminal

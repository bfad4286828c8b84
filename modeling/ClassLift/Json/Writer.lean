import ClassLift.Json.Reader
import ClassLift.Number.Decimal
import ClassLift.Text.Shown

/-!
# Writing trees

A tree is written on one line or indented by two spaces for each container it
is inside. What cannot be read back, a whole number that is not storable or
more than 254 nested containers, is not written at all.
-/

namespace ClassLift.Json

/-- Numbers from `0.00001` up to `10 ^ 16` are written without an exponent. -/
def textLayout : Decimal.Layout where
  leastPlain := -5
  greatestPlain := 15
  exponentWidth := 1

/-- Only the quote, the backslash and control characters are escaped. -/
def escapedChar (character : Char) : List Char :=
  if character = '"' then ['\\', '"']
  else if character = '\\' then ['\\', '\\']
  else if character = '\x08' then ['\\', 'b']
  else if character = '\x0c' then ['\\', 'f']
  else if character = '\n' then ['\\', 'n']
  else if character = '\r' then ['\\', 'r']
  else if character = '\t' then ['\\', 't']
  else if character.toNat < 0x20 then '\\' :: 'u' :: Text.hexadecimal 4 character.toNat
  else [character]

def writeChars (characters tail : List Char) : List Char :=
  match characters with
  | [] => tail
  | character :: rest => escapedChar character ++ writeChars rest tail

/-- A string between quotes, followed by `tail`. -/
def writeString (text : String) (tail : List Char) : List Char :=
  '"' :: writeChars text.toList ('"' :: tail)

def writeInt (value : Int) (tail : List Char) : List Char :=
  match value with
  | .ofNat value => Nat.toDigits 10 value ++ tail
  | .negSucc value => '-' :: Nat.toDigits 10 (value + 1) ++ tail

/-- In indented text, a new line inside `depth` containers. -/
def lineBreak (indent : Bool) (depth : Nat) (tail : List Char) : List Char :=
  if indent then '\n' :: (List.replicate (2 * depth) ' ' ++ tail) else tail

def writeColon (indent : Bool) (tail : List Char) : List Char :=
  if indent then ':' :: ' ' :: tail else ':' :: tail

mutual

/-- The text of a tree inside `depth` containers, followed by `tail`. -/
def write (indent : Bool) (depth : Nat) : Json → List Char → List Char
  | .null, tail => 'n' :: 'u' :: 'l' :: 'l' :: tail
  | .bool true, tail => 't' :: 'r' :: 'u' :: 'e' :: tail
  | .bool false, tail => 'f' :: 'a' :: 'l' :: 's' :: 'e' :: tail
  | .int value, tail => writeInt value tail
  | .float value, tail => (value.text textLayout).toList ++ tail
  | .str text, tail => writeString text tail
  | .arr [], tail => '[' :: ']' :: tail
  | .arr (item :: rest), tail =>
      '[' :: lineBreak indent (depth + 1) (write indent (depth + 1) item
        (writeItems indent (depth + 1) rest (lineBreak indent depth (']' :: tail))))
  | .obj [], tail => '\x7b' :: '\x7d' :: tail
  | .obj ((key, value) :: rest), tail =>
      '\x7b' :: lineBreak indent (depth + 1) (writeString key (writeColon indent
        (write indent (depth + 1) value
          (writeFields indent (depth + 1) rest (lineBreak indent depth ('\x7d' :: tail))))))

/-- The items after the first one, each behind a comma. -/
def writeItems (indent : Bool) (depth : Nat) : List Json → List Char → List Char
  | [], tail => tail
  | item :: rest, tail =>
      ',' :: lineBreak indent depth (write indent depth item (writeItems indent depth rest tail))

/-- The fields after the first one, each behind a comma. -/
def writeFields (indent : Bool) (depth : Nat) :
    List (String × Json) → List Char → List Char
  | [], tail => tail
  | (key, value) :: rest, tail =>
      ',' :: lineBreak indent depth (writeString key (writeColon indent
        (write indent depth value (writeFields indent depth rest tail))))

end

/-- The text of any tree. -/
def text (indent : Bool) (tree : Json) : String :=
  String.ofList (write indent 0 tree [])

mutual

/-- How many containers stand around the innermost place of a tree. -/
def depth : Json → Nat
  | .arr items => depthItems items + 1
  | .obj fields => depthFields fields + 1
  | _ => 0

def depthItems : List Json → Nat
  | [] => 0
  | item :: rest => max item.depth (depthItems rest)

def depthFields : List (String × Json) → Nat
  | [] => 0
  | (_, value) :: rest => max value.depth (depthFields rest)

end

mutual

/-- Whether every whole number of a tree is storable. -/
def hasStorableNumbers : Json → Bool
  | .int value => isStorable value
  | .arr items => itemsStorable items
  | .obj fields => fieldsStorable fields
  | _ => true

def itemsStorable : List Json → Bool
  | [] => true
  | item :: rest => item.hasStorableNumbers && itemsStorable rest

def fieldsStorable : List (String × Json) → Bool
  | [] => true
  | (_, value) :: rest => value.hasStorableNumbers && fieldsStorable rest

end

def greatestWrittenDepth : Nat := 254

/-- The text of a tree that can be written. -/
def toText? (indent : Bool) (tree : Json) : Option String :=
  if tree.hasStorableNumbers && tree.depth ≤ greatestWrittenDepth then some (tree.text indent)
  else none

end ClassLift.Json

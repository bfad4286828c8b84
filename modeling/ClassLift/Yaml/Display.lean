import ClassLift.Json.Display
import ClassLift.Yaml.Document

/-!
# Values of a document shown in messages

Messages name the value they complain about. What holds itself is not shown
again inside itself: dots stand for it there.
-/

namespace ClassLift.Yaml

/-- A byte as it is shown between quotes. -/
def shownByte (quote : Char) (byte : UInt8) : List Char :=
  let character := Char.ofNat byte.toNat
  if byte.toNat < 0x80 then Text.escaped quote character
  else '\\' :: 'x' :: Text.hexadecimal 2 byte.toNat

/-- Bytes between quotes, after a letter that says what they are. -/
def shownBytes (bytes : List UInt8) : String :=
  let quote := Text.quoteFor (bytes.map fun byte => Char.ofNat byte.toNat)
  String.ofList ('b' :: quote :: bytes.flatMap (shownByte quote) ++ [quote])

/-- The text of a number inside a message. -/
def shownNumber (number : Binary64) : String :=
  if number.isFinite then (Json.float number).display
  else if number = .infinity true then "-inf"
  else if number = .infinity false then "inf"
  else "nan"

namespace Scalar

/-- The text of a scalar inside a message. -/
def display : Scalar → String
  | .nothing => Json.null.display
  | .truth value => (Json.bool value).display
  | .whole value => toString value
  | .number value => shownNumber value
  | .moment value => value.display
  | .text value => Text.quoted value
  | .brokenText characters => Surrogate.shown characters
  | .bytes value => shownBytes value

/-- The word that messages use for the kind of a scalar. -/
def kindWord : Scalar → String
  | .nothing => Json.null.kindWord
  | .truth value => (Json.bool value).kindWord
  | .whole value => (Json.int value).kindWord
  | .number value => (Json.float value).kindWord
  | .moment value => value.kindWord
  | .text value => (Json.str value).kindWord
  | .brokenText _ => (Json.str "").kindWord
  | .bytes _ => "bytes"

end Scalar

namespace Document

/-- Parts between an opening and a closing sign. -/
def enclosed (opening closing : String) (parts : List String) : String :=
  opening ++ ", ".intercalate parts ++ closing

/-- The text of a value inside a message; those in `around` are being shown already. -/
def displayInside (document : Document) : Nat → (around : List Nat) → Value → String
  | _, _, .scalar scalar => scalar.display
  | 0, _, .held _ => ""
  | fuel + 1, around, .held number =>
      let shown (value : Value) : String :=
        displayInside document fuel (number :: around) value
      match document.holding? (.held number), around.contains number with
      | none, _ => ""
      | some (.items _), true | some (.pairs _), true => "[...]"
      | some (.fields _), true => "\x7b...\x7d"
      | some (.members _), true => "set(...)"
      | some (.items values), false => enclosed "[" "]" (values.map shown)
      | some (.pairs values), false =>
          enclosed "[" "]" (values.map fun (left, right) =>
            enclosed "(" ")" [shown left, shown right])
      | some (.fields values), false =>
          enclosed "\x7b" "\x7d" (values.map fun (key, value) => shown key ++ ": " ++ shown value)
      | some (.members []), false => "set()"
      | some (.members values), false => enclosed "\x7b" "\x7d" (values.map shown)

/-- The text of a value inside a message. -/
def display (document : Document) (value : Value) : String :=
  displayInside document (document.holdings.size + 2) [] value

/-- The word that messages use for the kind of a value. -/
def kindWord (document : Document) (value : Value) : String :=
  match value, document.holding? value with
  | .scalar scalar, _ => scalar.kindWord
  | .held _, some (.items _) | .held _, some (.pairs _) | .held _, none => (Json.arr []).kindWord
  | .held _, some (.fields _) => (Json.obj []).kindWord
  | .held _, some (.members _) => "set"

end Document

end ClassLift.Yaml

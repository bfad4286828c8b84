import ClassLift.Json.Basic
import ClassLift.Number.Decimal
import ClassLift.Text.Shown

/-!
# Trees shown in messages

Messages and log lines name the value they complain about. There a string is
quoted, and the constants are spelled `None`, `True` and `False`.
-/

namespace ClassLift.Json

/-- In messages, numbers from `0.0001` up to `10 ^ 16` are written without an exponent. -/
def displayLayout : Decimal.Layout where
  leastPlain := -4
  greatestPlain := 15
  exponentWidth := 2

mutual

/-- The text of a value inside a message. -/
def display : Json → String
  | .null => "None"
  | .bool true => "True"
  | .bool false => "False"
  | .int value => toString value
  | .float value => value.text displayLayout
  | .str text => Text.quoted text
  | .arr items => "[" ++ ", ".intercalate (displayItems items) ++ "]"
  | .obj fields => "\x7b" ++ ", ".intercalate (displayFields fields) ++ "\x7d"

def displayItems : List Json → List String
  | [] => []
  | item :: rest => item.display :: displayItems rest

def displayFields : List (String × Json) → List String
  | [] => []
  | (key, value) :: rest => (Text.quoted key ++ ": " ++ value.display) :: displayFields rest

end

/-- The text of a value that is the subject of a message: a string stands without quotes. -/
def displayBare : Json → String
  | .str text => text
  | value => value.display

/-- The word that messages use for the kind of a value. -/
def kindWord : Json → String
  | .null => "NoneType"
  | .bool _ => "bool"
  | .int _ => "int"
  | .float _ => "float"
  | .str _ => "str"
  | .arr _ => "list"
  | .obj _ => "dict"

end ClassLift.Json

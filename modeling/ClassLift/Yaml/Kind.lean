import ClassLift.Text.Pieces
import ClassLift.Yaml.Moment

/-!
# Kinds of nodes

Every node is of a kind. A tag names it; without a tag a plain scalar is
recognised by its form: as nothing, a truth value, a number, a moment in time or
a text. Numbers may have underscores between their digits, and parts to the base
of sixty.
-/

namespace ClassLift.Yaml

inductive Kind where
  | nothing
  | truth
  | whole
  | number
  | moment
  | binary
  | text
  | sequence
  | mapping
  | set
  /-- A sequence of mappings with one entry each. -/
  | pairs
  /-- The sign that merges another mapping. -/
  | merge
  /-- The sign of a default value. -/
  | default
  /-- Any other tag; it stands for no kind of value. -/
  | unknown (tag : String)
deriving DecidableEq, Inhabited

namespace Kind

/-- What the names of the tags start with that every reader knows. -/
def standardStart : String :=
  "tag:yaml.org,2002:"

/-- The names of the standard tags after their common start. -/
def standardNames : List (String × Kind) :=
  [("null", .nothing), ("bool", .truth), ("int", .whole), ("float", .number),
   ("timestamp", .moment), ("binary", .binary), ("str", .text), ("seq", .sequence),
   ("map", .mapping), ("set", .set), ("omap", .pairs), ("pairs", .pairs), ("merge", .merge),
   ("value", .default)]

/-- The kind that a tag names. -/
def ofTag (tag : String) : Kind :=
  ((standardNames.find? fun (name, _) => standardStart ++ name == tag).map Prod.snd).getD
    (.unknown tag)

/-- A word as it is, capitalised, or in capitals. -/
def isWord (word : String) (text : List Char) : Bool :=
  let letters := word.toList
  let capitalised := (letters.take 1).map Char.toUpper ++ letters.drop 1
  text == letters || text == capitalised || text == letters.map Char.toUpper

def isTruth (text : List Char) : Bool :=
  ["yes", "no", "true", "false", "on", "off"].any (isWord · text)

def isNothing (text : List Char) : Bool :=
  text == ['~'] || isWord "null" text

def withoutSign : List Char → List Char
  | '-' :: rest | '+' :: rest => rest
  | rest => rest

def isDigitOrGap (character : Char) : Bool :=
  character.isDigit || character == '_'

/-- A part to the base of sixty: one or two digits below sixty. -/
def isSixtieth : List Char → Bool
  | [digit] => digit.isDigit
  | [tens, digit] => tens.isDigit && tens ≤ '5' && digit.isDigit
  | _ => false

/-- A whole number in one of five notations, without its sign. -/
def isNatural (text : List Char) : Bool :=
  match text with
  | '0' :: 'b' :: digits =>
      !digits.isEmpty && digits.all fun c => c == '0' || c == '1' || c == '_'
  | '0' :: 'x' :: digits =>
      !digits.isEmpty
        && digits.all fun c => isDigitOrGap c || ('a' ≤ c && c ≤ 'f') || ('A' ≤ c && c ≤ 'F')
  | '0' :: digits => digits.all fun c => ('0' ≤ c && c ≤ '7') || c == '_'
  | first :: _ =>
      let (leading, others) := Text.split ':' text
      first.isDigit && leading.all isDigitOrGap && others.all isSixtieth
  | [] => false

def isWhole (text : List Char) : Bool :=
  isNatural (withoutSign text)

/-- The exponent of a number: a sign is needed. -/
def isExponent : List Char → Bool
  | [] => true
  | mark :: sign :: digits =>
      (mark == 'e' || mark == 'E') && (sign == '-' || sign == '+') && !digits.isEmpty
        && digits.all Char.isDigit
  | _ => false

/-- What follows the point of a number that starts with it. -/
def isBareFraction (isSigned : Bool) (afterPoint : List Char) : Bool :=
  let fraction := afterPoint.takeWhile isDigitOrGap
  isWord "inf" afterPoint
    || (!isSigned && ["nan", "NaN", "NAN"].any (·.toList == afterPoint))
    || (!isSigned && fraction.head?.any Char.isDigit
      && isExponent (afterPoint.drop fraction.length))

/-- A number with a point, or one of the words for what is no finite number. -/
def isNumber (text : List Char) : Bool :=
  let unsigned := withoutSign text
  let leading := unsigned.takeWhile fun c => isDigitOrGap c || c == ':'
  match unsigned.drop leading.length with
  | '.' :: afterPoint =>
      let ending := afterPoint.dropWhile isDigitOrGap
      if leading.isEmpty then isBareFraction (unsigned.length != text.length) afterPoint
      else if leading.head?.any Char.isDigit then
        let (_, others) := Text.split ':' leading
        if others.isEmpty then isExponent ending
        else others.all isSixtieth && ending.isEmpty
      else false
  | _ => false

/-- A text without the line break at its end. -/
def withoutBreak (text : List Char) : List Char :=
  if text.getLast? = some '\n' then text.dropLast else text

/-- The signs that are recognised but stand for nothing. -/
def isIdleSign (text : List Char) : Bool :=
  text == ['!'] || text == ['&'] || text == ['*']

/-- The kind of a plain scalar; a line break at its end does not count. -/
def ofPlain (scalar : List Char) : Kind :=
  let text := withoutBreak scalar
  if scalar.isEmpty then .nothing
  else if isTruth text then .truth
  else if isNumber text then .number
  else if isWhole text then .whole
  else if text = ['<', '<'] then .merge
  else if isNothing text then .nothing
  else if Moment.isRecognised text then .moment
  else if text = ['='] then .default
  else if isIdleSign text then .unknown (standardStart ++ "yaml")
  else .text

end Kind

end ClassLift.Yaml

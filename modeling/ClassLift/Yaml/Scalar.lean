import ClassLift.Text.Case
import ClassLift.Text.Digit
import ClassLift.Yaml.Fault
import ClassLift.Yaml.Kind
import ClassLift.Yaml.ScalarText

/-!
# Values of scalars

A scalar of a known kind is read as a value of that kind. A tag can give a
scalar a kind that its text does not fit; then it has no value.
-/

namespace ClassLift.Yaml

/-- The text of a scalar; a broken one has characters that stand for surrogates. -/
structure ScalarText where
  characters : List Char
  broken : Bool
deriving DecidableEq, Inhabited

/-- What a scalar stands for. -/
inductive Scalar where
  | nothing
  | truth (value : Bool)
  | whole (value : Int)
  | number (value : Binary64)
  | moment (moment : Moment)
  | text (text : String)
  /-- A text that holds surrogates. -/
  | brokenText (characters : List Char)
  | bytes (bytes : List UInt8)
deriving DecidableEq

namespace ScalarText

/-- How characters of a scalar are shown in a message. -/
def shown (scalar : ScalarText) (characters : List Char) : String :=
  if scalar.broken then Surrogate.shown characters
  else Text.quoted (String.ofList characters)

/-- A sign in front of a number, which must not be empty. -/
def splitSign (text : List Char) : Except ReadFault (Bool × List Char) :=
  if text.isEmpty then .error .emptyNumber else .ok (Numeral.splitSign text)

def withoutGaps (text : List Char) : List Char :=
  text.filter (· != '_')

section Numbers

variable (scalar : ScalarText)

/-- Reads a part of a scalar as a whole number to a base. -/
def readWhole (base : Nat) (text : List Char) : Except ReadFault Int :=
  (Numeral.whole base text).mapError (.numeral (scalar.shown text))

def readNumber (text : List Char) : Except ReadFault Binary64 :=
  (Numeral.number text).mapError (.numeral (scalar.shown text))

/-- A whole number without its sign: in one of four bases, or in parts to the base of sixty. -/
def unsignedWhole (text : List Char) : Except ReadFault Int :=
  match text with
  | [] => .error .emptyNumber
  | ['0'] => .ok 0
  | '0' :: 'b' :: digits => readWhole scalar 2 digits
  | '0' :: 'x' :: digits => readWhole scalar 16 digits
  | '0' :: _ => readWhole scalar 8 text
  | _ =>
      match Text.split ':' text with
      | (_, []) => readWhole scalar 10 text
      | (first, others) => do
          let parts ← (first :: others).mapM (readWhole scalar 10)
          return parts.foldl (fun value part => 60 * value + part) 0

def toWhole : Except ReadFault Int := do
  let (negative, unsigned) ← splitSign (withoutGaps scalar.characters)
  let value ← unsignedWhole scalar unsigned
  return if negative then -value else value

/-- A number can hold the powers of sixty below this one. -/
def mostParts : Nat := 174

/-- The number that parts to the base of sixty stand for. -/
def sumOfParts (parts : List Binary64) : Binary64 :=
  if parts.all (·.isFinite) then
    let total := parts.foldl (fun total part => 60 * total + part.scaled) 0
    (Binary64.nearest? (decide (total < 0)) total.natAbs (Nat.pow 2 1074)).getD
      (.infinity (decide (total < 0)))
  else .notANumber

/-- A number without its sign. -/
def unsignedNumber (text : List Char) : Except ReadFault Binary64 :=
  if text = ".inf".toList then .ok (.infinity false)
  else if text = ".nan".toList then .ok .notANumber
  else
    match Text.split ':' text with
    | (_, []) => readNumber scalar text
    | (first, others) => do
        let parts ← (first :: others).mapM (readNumber scalar)
        if mostParts < parts.length then throw .hugeNumber
        return sumOfParts parts

def toNumber : Except ReadFault Binary64 := do
  let (negative, unsigned) ← splitSign (Text.lowered (withoutGaps scalar.characters))
  let value ← unsignedNumber scalar unsigned
  return if negative then value.negated else value

end Numbers

/-- The words for the truth values, in lower case. -/
def truthWords : List (String × Bool) :=
  [("yes", true), ("no", false), ("true", true), ("false", false), ("on", true), ("off", false)]

def toTruth (scalar : ScalarText) : Except ReadFault Bool :=
  let word := Text.lowered scalar.characters
  match truthWords.lookup (String.ofList word) with
  | some value => .ok value
  | none => .error (.unknownTruth (scalar.shown word))

def toMoment (scalar : ScalarText) : Except ReadFault Moment :=
  match Moment.read? (Kind.withoutBreak scalar.characters) with
  | none => .error .noMoment
  | some moment =>
      match moment.fault? with
      | some fault => .error (.moment fault)
      | none => .ok moment

/-- The text of a scalar as it stands. -/
def toText (scalar : ScalarText) : Scalar :=
  if scalar.broken then .brokenText scalar.characters
  else .text (String.ofList scalar.characters)

/-- The value of a scalar of the given kind. -/
def read (scalar : ScalarText) (kind : Kind) : Except ReadFault Scalar :=
  match kind with
  | .nothing => .ok .nothing
  | .truth => .truth <$> scalar.toTruth
  | .whole => .whole <$> scalar.toWhole
  | .number => .number <$> scalar.toNumber
  | .moment => .moment <$> scalar.toMoment
  | .binary =>
      match Text.base64Bytes? scalar.characters with
      | some bytes => .ok (.bytes bytes)
      | none => .error .malformed
  | .text => .ok scalar.toText
  | .unknown tag => .error (.unknownTag tag)
  | .merge | .default | .sequence | .mapping | .set | .pairs => .error .malformed

end ScalarText

end ClassLift.Yaml

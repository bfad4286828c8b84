import ClassLift.Number.Binary64
import ClassLift.Text.Digit
import ClassLift.Text.Pieces

/-!
# Numerals

Numbers as people write them: with blanks around them, with a sign, and with the
digits of any script. Whole numbers may have a mark of their base in front of
their digits; numbers with a fraction may have an exponent, and there are words
for what is not finite.
-/

namespace ClassLift

/-- Why a text is no numeral. -/
inductive NumeralFault where
  | notWhole (base : Nat)
  | tooManyDigits (count : Nat)
  | notANumber
deriving DecidableEq

namespace Numeral

/-- Characters that may stand around a numeral. Outside of ASCII these are all blank ones. -/
def isGap (character : Char) : Bool :=
  if character.toNat < 0x80 then character == ' ' || ('\t' ≤ character && character ≤ '\r')
  else Text.isBlank character

/-- The digits of other scripts as those of ASCII. -/
def plainDigit (character : Char) : Char :=
  match Text.digitValue? character with
  | some value => Char.ofNat ('0'.toNat + value)
  | none => character

/-- A text without the gaps around it, in plain digits. -/
def plainText (text : List Char) : List Char :=
  ((((text.dropWhile isGap).reverse).dropWhile isGap).reverse).map plainDigit

/-- A sign in front of a number: whether it is negative, and what follows the sign. -/
def splitSign : List Char → Bool × List Char
  | '-' :: rest => (true, rest)
  | '+' :: rest => (false, rest)
  | rest => (false, rest)

/-- The value of a digit; the letters are digits of bases above ten. -/
def digitValue? (character : Char) : Option Nat :=
  if '0' ≤ character ∧ character ≤ '9' then some (character.toNat - '0'.toNat)
  else if 'a' ≤ character ∧ character ≤ 'z' then some (character.toNat - 'a'.toNat + 10)
  else if 'A' ≤ character ∧ character ≤ 'Z' then some (character.toNat - 'A'.toNat + 10)
  else none

def isDigitOf (base : Nat) (character : Char) : Bool :=
  (digitValue? character).any (· < base)

/-- The number that digits to a base spell. -/
def natOf (base : Nat) (digits : List Char) : Nat :=
  digits.foldl (fun value digit => base * value + (digitValue? digit).getD 0) 0

/-- The letter that marks a base after a zero. -/
def baseMark? (base : Nat) : Option Char :=
  if base = 2 then some 'b' else if base = 8 then some 'o' else if base = 16 then some 'x' else none

/-- The digits without the mark of their base. -/
def withoutMark (base : Nat) (text : List Char) : List Char :=
  match text with
  | '0' :: mark :: rest => if baseMark? base == some mark.toLower then rest else text
  | _ => text

/-- To the base of ten, numbers of more digits than this are refused. -/
def mostDigits : Nat := 4300

/-- Reads a whole number to a base. -/
def whole (base : Nat) (text : List Char) : Except NumeralFault Int :=
  let (negative, unsigned) := splitSign (plainText text)
  let marked := withoutMark base unsigned
  let digits := marked.takeWhile (isDigitOf base)
  if base = 10 ∧ mostDigits < digits.length then .error (.tooManyDigits digits.length)
  else if digits.isEmpty ∨ digits.length ≠ marked.length then .error (.notWhole base)
  else .ok (if negative then -(natOf base digits : Int) else natOf base digits)

/-- The exponent of a number, from the letter that marks it. -/
def exponent? : List Char → Option Int
  | [] => some 0
  | mark :: rest =>
      let (negative, digits) := splitSign rest
      if (mark = 'e' ∨ mark = 'E') ∧ !digits.isEmpty ∧ digits.all Char.isDigit then
        some (if negative then -(natOf 10 digits : Int) else natOf 10 digits)
      else none

/-- A finite number without its sign. -/
def unsigned? (negative : Bool) (text : List Char) : Option Binary64 := do
  let leading := text.takeWhile Char.isDigit
  let rest := text.drop leading.length
  let fraction := if rest.head? == some '.' then rest.tail.takeWhile Char.isDigit else []
  let ending := if rest.head? == some '.' then rest.tail.drop fraction.length else rest
  if leading.isEmpty && fraction.isEmpty then none
  let exponent ← exponent? ending
  return (Binary64.ofDecimal? negative (natOf 10 (leading ++ fraction))
    (exponent - fraction.length)).getD (.infinity negative)

/-- Reads a number, which is rounded to the nearest one that can be held. -/
def number (text : List Char) : Except NumeralFault Binary64 :=
  let (negative, unsigned) := splitSign (plainText text)
  let word := String.ofList (unsigned.map Char.toLower)
  if word = "inf" ∨ word = "infinity" then .ok (.infinity negative)
  else if word = "nan" then .ok .notANumber
  else
    match unsigned? negative unsigned with
    | some number => .ok number
    | none => .error .notANumber

end Numeral

end ClassLift

import ClassLift.Number.Numeral
import ClassLift.Text.Shown
import ClassLift.Yaml.Moment

/-!
# Faults of a configuration text

A text can fail to be one of this format, and a scalar of a known kind can fail
to have a value. The two are told apart, since only the first is a fault of the
format.
-/

namespace ClassLift.Yaml

/-- Why a text has no value. -/
inductive ReadFault where
  | malformed
  /-- A tag that stands for no kind of value. -/
  | unknownTag (tag : String)
  /-- A scalar, given as it is shown, that should be a number. -/
  | numeral (shown : String) (fault : NumeralFault)
  /-- A scalar that should be a number has no characters. -/
  | emptyNumber
  /-- A number in parts is out of range. -/
  | hugeNumber
  /-- A scalar, given as it is shown, that should be a truth value. -/
  | unknownTruth (shown : String)
  | moment (fault : MomentFault)
  /-- A scalar that should be a moment has another form. -/
  | noMoment
  /-- A mapping stands where a moment should be. -/
  | momentInMapping
  /-- An escape for a code point that is beyond the last one. -/
  | beyondUnicode
  /-- An escape for a number that is no code point at all. -/
  | beyondNumbers
  /-- A scalar that is given by itself. -/
  | endless
deriving DecidableEq

namespace ReadFault

def numeralMessage (shown : String) : NumeralFault → String
  | .notWhole base =>
      "invalid literal for int() with base " ++ toString base ++ ": "
        ++ String.ofList (shown.toList.take 200)
  | .tooManyDigits count =>
      "Exceeds the limit (" ++ toString Numeral.mostDigits
        ++ " digits) for integer string conversion: value has " ++ toString count
        ++ " digits; use sys.set_int_max_str_digits() to increase the limit"
  | .notANumber => "could not convert string to float: " ++ shown

/-- The words for a scalar without a value, where they are fixed. -/
def message? : ReadFault → Option String
  | .numeral shown fault => some (numeralMessage shown fault)
  | .unknownTruth shown => some shown
  | .moment fault => some fault.message
  | .beyondUnicode => some "chr() arg not in range(0x110000)"
  | .malformed | .unknownTag _ | .emptyNumber | .hugeNumber | .noMoment | .momentInMapping
  | .beyondNumbers | .endless => none

/-- Whether the format is at fault. -/
def isMalformed : ReadFault → Bool
  | .malformed | .unknownTag _ => true
  | _ => false

end ReadFault

end ClassLift.Yaml

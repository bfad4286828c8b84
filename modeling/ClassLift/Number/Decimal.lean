import ClassLift.Number.Binary64

/-!
# Decimal text of binary numbers

A finite binary number is written with the fewest decimal digits that still
round to it, and of the numerals of that length with the one nearest to it.
Where the point stands, and from which sizes on an exponent is written, is left
to a `Layout`.
-/

namespace ClassLift

/-- The quantity `digits * 10 ^ exponent`. -/
structure Decimal where
  digits : Nat
  exponent : Int
deriving DecidableEq

namespace Decimal

/--
The multiples of `10 ^ exponent`. A magnitude of `units` smallest binary units
is `units * scale / step` of them.
-/
structure Grid where
  scale : Nat
  step : Nat

def Grid.ofExponent (exponent : Int) : Grid where
  scale := Nat.pow 10 (-exponent).toNat
  step := Nat.pow 2 1074 * Nat.pow 10 exponent.toNat

/-- How many whole steps of the grid a magnitude reaches. -/
def Grid.below (grid : Grid) (units : Nat) : Nat :=
  units * grid.scale / grid.step

/-- The exponent of the leading decimal digit of a positive magnitude. -/
def leadingExponent (units : Nat) : Int :=
  let guess := ((Nat.log2 units : Int) - 1074) * 30103 / 100000
  if (Grid.ofExponent guess).below units = 0 then guess - 1
  else if (Grid.ofExponent (guess + 1)).below units ≠ 0 then guess + 1
  else guess

/--
The magnitudes that round to one binary number, in quarters of the smallest
unit. The ends belong to it exactly when the number's significand is even.
-/
structure Interval where
  lower : Nat
  upper : Nat
  closed : Bool

/-- The interval of a nonzero finite number. Below a power of two the numbers stand closer. -/
def Interval.ofNumber (number : Binary64) : Interval :=
  let unit := Nat.pow 2 number.shift
  let middle := 4 * number.magnitude
  let gap := if number.fractionField = 0 ∧ 1 < number.exponentField then unit else 2 * unit
  { lower := middle - gap
    upper := middle + 2 * unit
    closed := number.significand % 2 = 0 }

/-- Whether the point of the grid that lies `count` steps from zero is in the interval. -/
def Interval.contains (interval : Interval) (grid : Grid) (count : Nat) : Bool :=
  let point := 4 * count * grid.step
  let lower := interval.lower * grid.scale
  let upper := interval.upper * grid.scale
  if interval.closed then lower ≤ point && point ≤ upper
  else lower < point && point < upper

/--
A numeral of the given number of digits that rounds to the number, if there is
one. The nearer neighbour on the grid is tried first.
-/
def ofLength? (number : Binary64) (leading : Int) (length : Nat) : Option Decimal :=
  let exponent := leading + 1 - length
  let grid := Grid.ofExponent exponent
  let interval := Interval.ofNumber number
  let below := grid.below number.magnitude
  let nearer := Binary64.roundedQuotient (number.magnitude * grid.scale) grid.step
  let farther := 2 * below + 1 - nearer
  if interval.contains grid nearer then some ⟨nearer, exponent⟩
  else if interval.contains grid farther then some ⟨farther, exponent⟩
  else none

/-- The same quantity without zeros at the end of its digits, as far as `fuel` reaches. -/
def withoutEndingZeros : Nat → Decimal → Decimal
  | 0, decimal => decimal
  | fuel + 1, decimal =>
      if decimal.digits ≠ 0 ∧ decimal.digits % 10 = 0 then
        withoutEndingZeros fuel ⟨decimal.digits / 10, decimal.exponent + 1⟩
      else decimal

/-- The shortest numeral that rounds to a finite number; seventeen digits always do. -/
def shortest (number : Binary64) : Decimal :=
  if number.isZero then ⟨0, 0⟩
  else
    let leading := leadingExponent number.magnitude
    let found := (List.range 17).findSome? fun index => ofLength? number leading (index + 1)
    withoutEndingZeros 17 (found.getD ⟨0, 0⟩)

/--
How numerals are spelled: the exponents of the leading digit for which the point
is placed without an exponent, and the least number of exponent digits.
-/
structure Layout where
  leastPlain : Int
  greatestPlain : Int
  exponentWidth : Nat

def digitText (digits : Nat) : String :=
  String.ofList (Nat.toDigits 10 digits)

def zeros (count : Nat) : String :=
  String.ofList (List.replicate count '0')

/-- The digits with a point placed among them; a fraction part is always shown. -/
def plainText (decimal : Decimal) : String :=
  let digits := Nat.toDigits 10 decimal.digits
  if 0 ≤ decimal.exponent then
    digitText decimal.digits ++ zeros decimal.exponent.toNat ++ ".0"
  else
    let places := (-decimal.exponent).toNat
    if places < digits.length then
      String.ofList (digits.take (digits.length - places)) ++ "."
        ++ String.ofList (digits.drop (digits.length - places))
    else "0." ++ zeros (places - digits.length) ++ digitText decimal.digits

/-- The leading digit, the others after a point, and a signed exponent. -/
def exponentText (layout : Layout) (decimal : Decimal) (leading : Int) : String :=
  let digits := Nat.toDigits 10 decimal.digits
  let fraction := digits.drop 1
  let mantissa := String.ofList (digits.take 1)
    ++ (if fraction.isEmpty then "" else "." ++ String.ofList fraction)
  let exponent := digitText leading.natAbs
  mantissa ++ "e" ++ (if leading < 0 then "-" else "+")
    ++ zeros (layout.exponentWidth - exponent.length) ++ exponent

def text (layout : Layout) (decimal : Decimal) : String :=
  let leading := decimal.exponent + (Nat.toDigits 10 decimal.digits).length - 1
  if layout.leastPlain ≤ leading ∧ leading ≤ layout.greatestPlain then plainText decimal
  else exponentText layout decimal leading

end Decimal

/-- The text of a finite number; a negative zero keeps its sign. -/
def Binary64.text (layout : Decimal.Layout) (number : Binary64) : String :=
  (if number.isNegative then "-" else "") ++ (Decimal.shortest number).text layout

end ClassLift

/-!
# Binary floating-point numbers

Numbers with a fraction part are 64-bit binary floating-point numbers. They are
held as bit patterns and read as whole multiples of the smallest positive one,
`2 ^ (-1074)`, so that comparing and rounding them is arithmetic on natural
numbers and needs no operation of the machine.
-/

namespace ClassLift

/-- A 64-bit binary floating-point number, held as its bit pattern. -/
structure Binary64 where
  bits : UInt64
deriving DecidableEq, Inhabited

namespace Binary64

def word (number : Binary64) : Nat :=
  number.bits.toNat

def isNegative (number : Binary64) : Bool :=
  Nat.pow 2 63 ≤ number.word

def exponentField (number : Binary64) : Nat :=
  number.word / Nat.pow 2 52 % Nat.pow 2 11

def fractionField (number : Binary64) : Nat :=
  number.word % Nat.pow 2 52

def isFinite (number : Binary64) : Bool :=
  number.exponentField != 2047

def significand (number : Binary64) : Nat :=
  if number.exponentField = 0 then number.fractionField else Nat.pow 2 52 + number.fractionField

/-- How many places the significand is shifted left of the smallest unit. -/
def shift (number : Binary64) : Nat :=
  number.exponentField - 1

/-- The distance from zero of a finite number, in units of `2 ^ (-1074)`. -/
def magnitude (number : Binary64) : Nat :=
  number.significand * Nat.pow 2 number.shift

/-- A finite number in units of `2 ^ (-1074)`. -/
def scaled (number : Binary64) : Int :=
  if number.isNegative then -(number.magnitude : Int) else number.magnitude

def isZero (number : Binary64) : Bool :=
  number.magnitude == 0

def signBit (negative : Bool) : Nat :=
  if negative then Nat.pow 2 63 else 0

/-- The number with the given sign whose magnitude is `significand * 2 ^ shift` units. -/
def make (negative : Bool) (significand shift : Nat) : Binary64 :=
  let body :=
    if significand < Nat.pow 2 52 then significand
    else (shift + 1) * Nat.pow 2 52 + (significand - Nat.pow 2 52)
  ⟨UInt64.ofNat (signBit negative + body)⟩

def infinity (negative : Bool) : Binary64 :=
  ⟨UInt64.ofNat (signBit negative + 2047 * Nat.pow 2 52)⟩

def notANumber : Binary64 :=
  ⟨UInt64.ofNat (2047 * Nat.pow 2 52 + Nat.pow 2 51)⟩

/-- The number with the other sign. -/
def negated (number : Binary64) : Binary64 :=
  ⟨number.bits ^^^ UInt64.ofNat (Nat.pow 2 63)⟩

/-- The nearest whole number to `dividend / divisor`; of two equally near ones, the even one. -/
def roundedQuotient (dividend divisor : Nat) : Nat :=
  let quotient := dividend / divisor
  let twiceRemainder := 2 * (dividend % divisor)
  if twiceRemainder < divisor then quotient
  else if divisor < twiceRemainder then quotient + 1
  else quotient + quotient % 2

/--
The number nearest to `numerator / denominator`, ties going to the even
significand, or nothing when that ratio lies beyond the largest finite number.
-/
def nearest? (negative : Bool) (numerator denominator : Nat) : Option Binary64 :=
  let units := numerator * Nat.pow 2 1074
  let shift := Nat.log2 (units / denominator) - 52
  let significand := roundedQuotient units (denominator * Nat.pow 2 shift)
  let (significand, shift) :=
    if significand = Nat.pow 2 53 then (Nat.pow 2 52, shift + 1) else (significand, shift)
  if 2045 < shift then none else some (make negative significand shift)

/--
The number nearest to `digits * 10 ^ exponent`. A decimal numeral whose leading
digit lies far outside the range of finite numbers is settled without forming
the power of ten.
-/
def ofDecimal? (negative : Bool) (digits : Nat) (exponent : Int) : Option Binary64 :=
  let leading : Int := exponent + (Nat.log2 digits : Int) * 30103 / 100000
  if digits = 0 ∨ leading < -400 then some (make negative 0 0)
  else if 400 < leading then none
  else if 0 ≤ exponent then nearest? negative (digits * Nat.pow 10 exponent.toNat) 1
  else nearest? negative digits (Nat.pow 10 (-exponent).toNat)

/-- Whether a finite number and a whole number are the same quantity. -/
def equalsInt (number : Binary64) (whole : Int) : Bool :=
  number.isFinite && number.scaled == whole * Nat.pow 2 1074

/-- Whether two numbers are the same quantity; both zeros are. -/
def sameQuantity (left right : Binary64) : Bool :=
  if left.isFinite && right.isFinite then left.scaled == right.scaled
  else left == right && left != notANumber

/-- The whole number that a finite number is, if it is one. -/
def whole? (number : Binary64) : Option Int :=
  if number.isFinite && number.magnitude % Nat.pow 2 1074 == 0 then
    some (number.scaled / Nat.pow 2 1074)
  else none

end Binary64

end ClassLift

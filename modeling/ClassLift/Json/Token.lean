import ClassLift.Json.Basic

/-!
# Tokens of JSON text

The text of a tree is read in two passes. This one turns characters into
tokens: a machine takes one character at a time and holds in its `Mode` what it
has seen of the token it is inside. The grammar is the strict one, with no
comments, no raw control characters and no unpaired surrogate escapes.
-/

namespace ClassLift.Json

/--
A numeral: the quantity `digits * 10 ^ exponent` with a sign. It is plain when it
was written without a point and without an exponent.
-/
structure Numeral where
  negative : Bool
  digits : Nat
  exponent : Int
  plain : Bool
deriving DecidableEq

inductive Token where
  | openList
  | closeList
  | openObject
  | closeObject
  | comma
  | colon
  | null
  | bool (value : Bool)
  | str (text : String)
  | number (numeral : Numeral)
deriving DecidableEq

namespace Numeral

def digitValue (character : Char) : Nat :=
  character.toNat - '0'.toNat

def natOfDigits (digits : List Char) : Nat :=
  digits.foldl (fun value digit => 10 * value + digitValue digit) 0

/-- The exponent part of a numeral, without its mark. -/
def exponentOfChars? (characters : List Char) : Option Int :=
  let (negative, digits) :=
    match characters with
    | '-' :: digits => (true, digits)
    | '+' :: digits => (false, digits)
    | digits => (false, digits)
  if digits.isEmpty || !digits.all Char.isDigit then none
  else if negative then some (-(natOfDigits digits : Int))
  else some (natOfDigits digits)

/-- A numeral has no leading zero, and a digit on either side of its point. -/
def ofChars? (characters : List Char) : Option Numeral :=
  let (negative, unsigned) :=
    match characters with
    | '-' :: rest => (true, rest)
    | rest => (false, rest)
  let whole := unsigned.takeWhile Char.isDigit
  let afterWhole := unsigned.dropWhile Char.isDigit
  let (fraction?, afterFraction) :=
    match afterWhole with
    | '.' :: rest => (some (rest.takeWhile Char.isDigit), rest.dropWhile Char.isDigit)
    | rest => (none, rest)
  let exponent? : Option (Option Int) :=
    match afterFraction with
    | [] => some none
    | mark :: rest => if mark = 'e' ∨ mark = 'E' then (exponentOfChars? rest).map some else none
  match exponent? with
  | none => none
  | some exponent =>
      if whole.isEmpty || (1 < whole.length && whole.head? == some '0') || fraction? == some [] then
        none
      else
        let fraction := fraction?.getD []
        some {
          negative
          digits := natOfDigits (whole ++ fraction)
          exponent := exponent.getD 0 - fraction.length
          plain := fraction?.isNone && exponent.isNone }

end Numeral

namespace Token

/-- What has been seen of the token the reader is inside; the latest character comes first. -/
inductive Mode where
  | between
  | word (seen : List Char)
  | number (seen : List Char)
  | text (seen : List Char)
  /-- After a backslash, and after the first half of a surrogate pair if there was one. -/
  | escape (seen : List Char) (high : Option Nat)
  /-- Inside a hexadecimal escape with digits still to come. -/
  | hex (seen : List Char) (high : Option Nat) (missing : Nat) (value : Nat)
  /-- After the first half of a surrogate pair. -/
  | pair (seen : List Char) (high : Nat)

def isSpace (character : Char) : Bool :=
  character == ' ' || character == '\n' || character == '\r' || character == '\t'

def isNumeralChar (character : Char) : Bool :=
  character.isDigit || character == '-' || character == '+' || character == '.'
    || character == 'e' || character == 'E'

def ofWord? (word : List Char) : Option Token :=
  if word = ['n', 'u', 'l', 'l'] then some .null
  else if word = ['t', 'r', 'u', 'e'] then some (.bool true)
  else if word = ['f', 'a', 'l', 's', 'e'] then some (.bool false)
  else none

def hexValue? (character : Char) : Option Nat :=
  if '0' ≤ character ∧ character ≤ '9' then some (character.toNat - '0'.toNat)
  else if 'a' ≤ character ∧ character ≤ 'f' then some (character.toNat - 'a'.toNat + 10)
  else if 'A' ≤ character ∧ character ≤ 'F' then some (character.toNat - 'A'.toNat + 10)
  else none

/-- The character that a one-letter escape stands for. -/
def unescape? (letter : Char) : Option Char :=
  match letter with
  | '"' => some '"'
  | '\\' => some '\\'
  | '/' => some '/'
  | 'b' => some '\x08'
  | 'f' => some '\x0c'
  | 'n' => some '\n'
  | 'r' => some '\r'
  | 't' => some '\t'
  | _ => none

/-- Where the reader goes once a hexadecimal escape is complete. -/
def afterHex? (seen : List Char) (high : Option Nat) (value : Nat) : Option Mode :=
  let isHigh := 0xd800 ≤ value ∧ value < 0xdc00
  let isLow := 0xdc00 ≤ value ∧ value < 0xe000
  match high with
  | some first =>
      if isLow then
        some (.text (Char.ofNat (0x10000 + (first - 0xd800) * 0x400 + (value - 0xdc00)) :: seen))
      else none
  | none =>
      if isHigh then some (.pair seen value)
      else if isLow then none
      else some (.text (Char.ofNat value :: seen))

/-- What the first character of a token leads to. -/
def start? (character : Char) : Option (List Token × Mode) :=
  if isSpace character then some ([], .between)
  else if character = '[' then some ([.openList], .between)
  else if character = ']' then some ([.closeList], .between)
  else if character = '\x7b' then some ([.openObject], .between)
  else if character = '\x7d' then some ([.closeObject], .between)
  else if character = ',' then some ([.comma], .between)
  else if character = ':' then some ([.colon], .between)
  else if character = '"' then some ([], .text [])
  else if character.isDigit || character = '-' then some ([], .number [character])
  else if character.isAlpha then some ([], .word [character])
  else none

/-- The token that ends where the reader stands, if a text may end there. -/
def finish? : Mode → Option (List Token)
  | .between => some []
  | .word seen => (ofWord? seen.reverse).map ([·])
  | .number seen => (Numeral.ofChars? seen.reverse).map ([.number ·])
  | .text _ | .escape _ _ | .hex _ _ _ _ | .pair _ _ => none

/-- One character: the tokens it completes, and where the reader is after it. -/
def step? (mode : Mode) (character : Char) : Option (List Token × Mode) :=
  match mode with
  | .between => start? character
  | .word seen =>
      if character.isAlpha then some ([], .word (character :: seen))
      else do
        let completed ← finish? mode
        let (tokens, next) ← start? character
        return (completed ++ tokens, next)
  | .number seen =>
      if isNumeralChar character then some ([], .number (character :: seen))
      else do
        let completed ← finish? mode
        let (tokens, next) ← start? character
        return (completed ++ tokens, next)
  | .text seen =>
      if character = '"' then some ([.str (String.ofList seen.reverse)], .between)
      else if character = '\\' then some ([], .escape seen none)
      else if character.toNat < 0x20 then none
      else some ([], .text (character :: seen))
  | .escape seen none =>
      if character = 'u' then some ([], .hex seen none 4 0)
      else (unescape? character).map fun plain => ([], .text (plain :: seen))
  | .escape seen (some high) =>
      if character = 'u' then some ([], .hex seen (some high) 4 0) else none
  | .hex seen high missing value => do
      let digit ← hexValue? character
      if missing ≤ 1 then
        let next ← afterHex? seen high (16 * value + digit)
        return ([], next)
      else return ([], .hex seen high (missing - 1) (16 * value + digit))
  | .pair seen high =>
      if character = '\\' then some ([], .escape seen (some high)) else none

/-- The reader between two characters: the tokens so far, the latest first, and its mode. -/
structure Reading where
  tokens : List Token
  mode : Mode

def Reading.next? (reading : Reading) (character : Char) : Option Reading :=
  (step? reading.mode character).map fun (tokens, mode) =>
    ⟨tokens.reverse ++ reading.tokens, mode⟩

/-- The tokens of a text, or nothing if some part of it is no token. -/
def ofChars? (characters : List Char) : Option (List Token) := do
  let reading ← characters.foldlM Reading.next? ⟨[], .between⟩
  let last ← finish? reading.mode
  return reading.tokens.reverse ++ last

end Token

end ClassLift.Json

/-!
# Digits

Characters that stand for numbers: the decimal digits of every script, the
hexadecimal digits in which code points are written, and the letters that spell
bytes.
-/

namespace ClassLift.Text

/-!
### Decimal and hexadecimal digits

Ten digits of a script that writes numbers to the base of ten stand next to each
other, from zero to nine.
-/

/-- The code points of the zeros. -/
def zeros : List Nat :=
  [0x30, 0x660, 0x6f0, 0x7c0, 0x966, 0x9e6, 0xa66, 0xae6, 0xb66, 0xbe6, 0xc66, 0xce6, 0xd66,
   0xde6, 0xe50, 0xed0, 0xf20, 0x1040, 0x1090, 0x17e0, 0x1810, 0x1946, 0x19d0, 0x1a80, 0x1a90,
   0x1b50, 0x1bb0, 0x1c40, 0x1c50, 0xa620, 0xa8d0, 0xa900, 0xa9d0, 0xa9f0, 0xaa50, 0xabf0,
   0xff10, 0x104a0, 0x10d30, 0x11066, 0x110f0, 0x11136, 0x111d0, 0x112f0, 0x11450, 0x114d0,
   0x11650, 0x116c0, 0x11730, 0x118e0, 0x11950, 0x11c50, 0x11d50, 0x11da0, 0x16a60, 0x16ac0,
   0x16b50, 0x1d7ce, 0x1d7d8, 0x1d7e2, 0x1d7ec, 0x1d7f6, 0x1e140, 0x1e2f0, 0x1e950, 0x1fbf0]

/-- The value of a decimal digit. -/
def digitValue? (character : Char) : Option Nat :=
  let code := character.toNat
  (zeros.find? fun first => first ≤ code && code < first + 10).map (code - ·)

def isDecimal (character : Char) : Bool :=
  (digitValue? character).isSome

/-- The hexadecimal digits of a number, padded with zeros to the given width. -/
def hexadecimal (width number : Nat) : List Char :=
  let digits := Nat.toDigits 16 number
  List.replicate (width - digits.length) '0' ++ digits

/-!
### Bytes in base 64

Four letters spell three bytes. Signs fill up the last four letters; anything
else between the letters is passed over.
-/

/-- The six bits that a letter stands for. -/
def sixBits? (character : Char) : Option Nat :=
  if 'A' ≤ character ∧ character ≤ 'Z' then some (character.toNat - 'A'.toNat)
  else if 'a' ≤ character ∧ character ≤ 'z' then some (character.toNat - 'a'.toNat + 26)
  else if '0' ≤ character ∧ character ≤ '9' then some (character.toNat - '0'.toNat + 52)
  else if character = '+' then some 62
  else if character = '/' then some 63
  else none

/--
The bytes of a text, after `count` letters of a group of four whose last bits are
`pending`, and as many filling signs as `fill`. A filled group ends the text; a
group that is neither complete nor filled is a fault.
-/
def bytesFrom? : (count pending fill : Nat) → List Char → Option (List UInt8)
  | count, _, _, [] => if count = 0 then some [] else none
  | count, pending, fill, character :: rest =>
      if character = '=' then
        if 2 ≤ count then
          if 4 ≤ count + fill + 1 then some [] else bytesFrom? count pending (fill + 1) rest
        else bytesFrom? count pending fill rest
      else
        match sixBits? character with
        | none => bytesFrom? count pending fill rest
        | some bits =>
            match count with
            | 0 => bytesFrom? 1 bits 0 rest
            | 1 =>
                (UInt8.ofNat (pending * 4 + bits / 16) :: ·) <$> bytesFrom? 2 (bits % 16) 0 rest
            | 2 =>
                (UInt8.ofNat (pending * 16 + bits / 4) :: ·) <$> bytesFrom? 3 (bits % 4) 0 rest
            | _ => (UInt8.ofNat (pending * 64 + bits) :: ·) <$> bytesFrom? 0 0 0 rest

/-- The bytes that a text spells; it must be of ASCII. -/
def base64Bytes? (text : List Char) : Option (List UInt8) :=
  if text.all (·.toNat < 0x80) then bytesFrom? 0 0 0 text else none

end ClassLift.Text

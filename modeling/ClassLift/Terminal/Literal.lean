import ClassLift.Text.Case
import ClassLift.Text.Digit
import ClassLift.Text.Pieces

/-!
# Literal parameters

A style can name a handler and the parameters it is called with. The parameters
must be literal: numbers, texts, constants, and tuples, sets and dictionaries of
them. Nothing is done with them here, so a reader only says whether they are
well formed, and of what kind.
-/

namespace ClassLift.Terminal.Literal

/-- The kinds of literals, as far as a sum or a set tells them apart. -/
inductive Kind where
  | real (signed : Bool)
  | imaginary (signed : Bool)
  /-- Something that can be a member of a set. -/
  | fixed
  /-- Something that cannot be one: a set, a dictionary, or a tuple with one of them. -/
  | changing
deriving DecidableEq

inductive Token where
  | open
  | close
  | openBrace
  | closeBrace
  | comma
  | colon
  | plus
  | minus
  | number (imaginary : Bool)
  | text (bytes : Bool)
  | constant
  | setName
deriving DecidableEq

def isNameChar (character : Char) : Bool :=
  character.isAlphanum || character == '_'

/-- Digits with single underscores between them. -/
def isDigitRun (isDigit : Char → Bool) : List Char → Bool
  | [] => false
  | [digit] => isDigit digit
  | digit :: '_' :: rest => isDigit digit && isDigitRun isDigit rest
  | digit :: rest => isDigit digit && isDigitRun isDigit rest

/-- An exponent, from the letter that marks it. -/
def isExponent : List Char → Bool
  | [] => true
  | mark :: rest =>
      (mark == 'e' || mark == 'E')
        && isDigitRun Char.isDigit
          (if rest.head? == some '-' || rest.head? == some '+' then rest.tail else rest)

/-- A number with a point or an exponent. -/
def isFraction (text : List Char) : Bool :=
  let isMark (character : Char) : Bool := character == 'e' || character == 'E'
  let leading := text.takeWhile fun c => c != '.' && !isMark c
  match text.drop leading.length with
  | '.' :: rest =>
      let digits := rest.takeWhile fun c => !isMark c
      (leading.isEmpty || isDigitRun Char.isDigit leading)
        && (digits.isEmpty || isDigitRun Char.isDigit digits)
        && !(leading.isEmpty && digits.isEmpty)
        && isExponent (rest.drop digits.length)
  | rest => isDigitRun Char.isDigit leading && !rest.isEmpty && isExponent rest

/-- A whole number; to the base of ten it starts with zero only if it is zero. -/
def isWhole (text : List Char) : Bool :=
  let based (digits : List Char) (isDigit : Char → Bool) : Bool :=
    isDigitRun isDigit (if digits.head? == some '_' then digits.tail else digits)
  match text with
  | '0' :: mark :: digits =>
      if mark = 'x' ∨ mark = 'X' then
        based digits fun c =>
          c.isDigit || ('a' ≤ c && c ≤ 'f') || ('A' ≤ c && c ≤ 'F')
      else if mark = 'o' ∨ mark = 'O' then based digits fun c => '0' ≤ c && c ≤ '7'
      else if mark = 'b' ∨ mark = 'B' then based digits fun c => c == '0' || c == '1'
      else isDigitRun (· == '0') text
  | _ => isDigitRun Char.isDigit text

/-- Whether a number is imaginary, if it is one at all. -/
def number? (text : List Char) : Option Bool :=
  match text.getLast? with
  | some 'j' | some 'J' =>
      let digits := text.dropLast
      if isDigitRun Char.isDigit digits || isFraction digits then some true else none
  | _ => if isWhole text || isFraction text then some false else none

/-- The characters of a number: a sign belongs to it after the mark of an exponent. -/
def numberLength (text : List Char) : Nat :=
  let run := text.takeWhile fun c => isNameChar c || c == '.'
  let isMarked := (run.getLast? == some 'e' || run.getLast? == some 'E')
    && run.take 2 != ['0', 'x'] && run.take 2 != ['0', 'X']
  match text.drop run.length with
  | sign :: rest =>
      if isMarked && (sign == '-' || sign == '+') then
        run.length + 1 + (rest.takeWhile isNameChar).length
      else run.length
  | [] => run.length

/-- How many hexadecimal digits an escape needs; in bytes there is only the shortest one. -/
def escapeLength? (bytes : Bool) (letter : Char) : Option Nat :=
  if letter = 'x' then some 2
  else if bytes then none
  else if letter = 'u' then some 4
  else if letter = 'U' then some 8
  else none

def isHex (character : Char) : Bool :=
  character.isDigit || ('a' ≤ character && character ≤ 'f') || ('A' ≤ character && character ≤ 'F')

def hexValue (digits : List Char) : Nat :=
  digits.foldl
    (fun value digit =>
      16 * value + (if digit.isDigit then digit.toNat - '0'.toNat
        else digit.toLower.toNat - 'a'.toNat + 10))
    0

/-- What follows the closing quotes of a text; raw texts have no escapes. -/
def afterText? (quote : List Char) (raw bytes : Bool) : Nat → List Char → Option (List Char)
  | 0, _ => none
  | _ + 1, [] => none
  | fuel + 1, character :: rest =>
      let text := character :: rest
      if text.take quote.length == quote then some (text.drop quote.length)
      else if character = '\\' then
        match rest with
        | [] => none
        | letter :: others =>
            match raw, escapeLength? bytes letter with
            | false, some length =>
                let digits := others.take length
                if digits.length = length && digits.all isHex && hexValue digits < 0x110000 then
                  afterText? quote raw bytes fuel (others.drop length)
                else none
            | _, _ =>
                if !raw && !bytes && letter == 'N' then none
                else afterText? quote raw bytes fuel others
      else if character = '\n' && quote.length = 1 then none
      else if bytes && 0x7f < character.toNat then none
      else afterText? quote raw bytes fuel rest

/-- A text with the letters in front of it, from its opening quote. -/
def text? (letters text : List Char) : Option (Token × List Char) := do
  let quote ← text.head?
  let quotes := if text.take 3 == [quote, quote, quote] then [quote, quote, quote] else [quote]
  let (raw, bytes) ←
    match String.ofList (Text.lowered letters) with
    | "" | "u" => some (false, false)
    | "r" => some (true, false)
    | "b" => some (false, true)
    | "br" | "rb" => some (true, true)
    | _ => none
  let rest ← afterText? quotes raw bytes (text.length + 1) (text.drop quotes.length)
  return (.text bytes, rest)

/-- A constant, or the name of the empty set. -/
def name? (name : List Char) : Option Token :=
  if ["None", "True", "False"].contains (String.ofList name) then some .constant
  else if name == "set".toList then some .setName
  else none

/-- The token that starts with the given character, outside of blanks and comments. -/
def token? (character : Char) (rest : List Char) : Option (Token × List Char) :=
  let text := character :: rest
  match character with
  | '(' => some (.open, rest)
  | ')' => some (.close, rest)
  | '\x7b' => some (.openBrace, rest)
  | '\x7d' => some (.closeBrace, rest)
  | ',' => some (.comma, rest)
  | ':' => some (.colon, rest)
  | '+' => some (.plus, rest)
  | '-' => some (.minus, rest)
  | '\'' | '"' => text? [] text
  | _ =>
      if text.take 3 == ['.', '.', '.'] then some (.constant, text.drop 3)
      else if character.isDigit || (character == '.' && rest.head?.any Char.isDigit) then
        let length := numberLength text
        (number? (text.take length)).map fun imaginary => (.number imaginary, text.drop length)
      else
        let name := text.takeWhile isNameChar
        let after := text.drop name.length
        if after.head? == some '\'' || after.head? == some '"' then text? name after
        else (name? name).map (·, after)

/-- The tokens of a text; a line ends only inside brackets, or before or after all tokens. -/
def tokens? : Nat → (depth : Nat) → (seen ended : Bool) → List Char → Option (List Token)
  | 0, _, _, _, _ => none
  | _ + 1, _, _, _, [] => some []
  | fuel + 1, depth, seen, ended, character :: rest =>
      if character = ' ' ∨ character = '\t' ∨ character = '\x0c' then
        tokens? fuel depth seen ended rest
      else if character = '\n' ∨ character = '\r' then
        tokens? fuel depth seen (ended || (seen && depth == 0)) rest
      else if character = '#' then
        tokens? fuel depth seen ended (rest.dropWhile fun c => c != '\n' && c != '\r')
      else if character = '\\' ∧ rest.head? = some '\n' then
        tokens? fuel depth seen ended rest.tail
      else if ended then none
      else do
        let (token, rest) ← token? character rest
        let depth :=
          if token = .open ∨ token = .openBrace then depth + 1
          else if token = .close ∨ token = .closeBrace then depth - 1
          else depth
        (token :: ·) <$> tokens? fuel depth true ended rest

/-- A literal that was read, and the tokens after it. -/
abbrev Read := Kind × List Token

/-- Texts that follow one another are one, if all or none of them are bytes. -/
def afterTexts? (bytes : Bool) : List Token → Option (List Token)
  | .text other :: rest => if other = bytes then afterTexts? bytes rest else none
  | rest => some rest

/-- The kind of a tuple, or of a set or dictionary made of the given members. -/
def tupleKind (members : List Kind) : Kind :=
  if members.contains .changing then .changing else .fixed

def signed? : Kind → Option Kind
  | .real false => some (.real true)
  | .imaginary false => some (.imaginary true)
  | _ => none

mutual

/-- A literal without a sign. -/
def atom? : Nat → List Token → Option Read
  | 0, _ => none
  | fuel + 1, tokens =>
      match tokens with
      | .number imaginary :: rest =>
          some (if imaginary then .imaginary false else .real false, rest)
      | .text bytes :: rest => (afterTexts? bytes rest).map (.fixed, ·)
      | .constant :: rest => some (.fixed, rest)
      | .setName :: .open :: .close :: rest => some (.changing, rest)
      | .open :: .close :: rest => some (.fixed, rest)
      | .open :: rest => do
          let (first, rest) ← sum? fuel rest
          match rest with
          | .close :: rest => some (first, rest)
          | _ => do
              let (others, rest) ← members? fuel .close rest
              return (tupleKind (first :: others), rest)
      | .openBrace :: .closeBrace :: rest => some (.changing, rest)
      | .openBrace :: rest => do
          let (first, rest) ← sum? fuel rest
          if first = .changing then none
          match rest with
          | .colon :: rest => do
              let (_, rest) ← sum? fuel rest
              let rest ← pairs? fuel rest
              return (.changing, rest)
          | _ => do
              let (others, rest) ← members? fuel .closeBrace rest
              if others.contains .changing then none
              return (.changing, rest)
      | _ => none

/-- A literal, or the sum of a real and an imaginary number. -/
def sum? : Nat → List Token → Option Read
  | 0, _ => none
  | fuel + 1, tokens => do
      let (first, rest) ←
        match tokens with
        | .plus :: rest | .minus :: rest => do
            let (kind, rest) ← atom? fuel rest
            return (← signed? kind, rest)
        | _ => atom? fuel tokens
      match rest with
      | .plus :: rest | .minus :: rest => do
          let (second, rest) ← atom? fuel rest
          match first, second with
          | .real _, .imaginary false => some (.fixed, rest)
          | _, _ => none
      | _ => some (first, rest)

/-- Further members up to the closing bracket; a comma may stand before it. -/
def members? : Nat → Token → List Token → Option (List Kind × List Token)
  | 0, _, _ => none
  | fuel + 1, closing, tokens =>
      match tokens with
      | .comma :: next :: rest =>
          if next = closing then some ([], rest)
          else do
            let (kind, rest) ← sum? fuel (next :: rest)
            let (kinds, rest) ← members? fuel closing rest
            return (kind :: kinds, rest)
      | next :: rest => if next = closing then some ([], rest) else none
      | [] => none

/-- Further keys and values of a dictionary, up to its closing brace. -/
def pairs? : Nat → List Token → Option (List Token)
  | 0, _ => none
  | fuel + 1, tokens =>
      match tokens with
      | .closeBrace :: rest => some rest
      | .comma :: .closeBrace :: rest => some rest
      | .comma :: rest => do
          let (key, rest) ← sum? fuel rest
          if key = .changing then none
          match rest with
          | .colon :: rest => do
              let (_, rest) ← sum? fuel rest
              pairs? fuel rest
          | _ => none
      | _ => none

end

/-- Further members of a tuple without brackets, to the end. -/
def openTuple : Nat → List Token → Bool
  | _, [] => true
  | _, [.comma] => true
  | 0, _ => false
  | fuel + 1, .comma :: rest =>
      match sum? (rest.length + 1) rest with
      | some (_, rest) => openTuple fuel rest
      | none => false
  | _ + 1, _ => false

/-- Whether a text is literal. -/
def isLiteral (text : List Char) : Bool :=
  match tokens? (text.length + 1) 0 false false text with
  | none => false
  | some tokens =>
      let fuel := 3 * tokens.length + 3
      match sum? fuel tokens with
      | some (_, rest) => openTuple fuel rest
      | none => false

end ClassLift.Terminal.Literal

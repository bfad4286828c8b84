import ClassLift.Json.Writer
import Mathlib.Data.List.TakeWhile
import Mathlib.Tactic.IntervalCases

/-!
# Reading what was written, piece by piece

A text is read in two passes, the first of which collects all tokens. Here both
passes advance together: `resume?` reads the rest of a text from any place in it.
In this form a piece of written text can be read on its own, whatever follows it.
Strings, signs and blanks end where they end. A number or a word goes on as long
as the next character may belong to it, so what follows has to end it.
-/

namespace ClassLift.Json

open Token (Mode Reading start? finish? isNumeralChar)

/-- Reads the rest of a text; the tokens are put together as they are completed. -/
def resume? (mode : Mode) (assembly : Assembly) : List Char → Option Assembly
  | [] => (finish? mode).bind (List.foldlM (Assembly.step? fileLimits) assembly)
  | character :: rest =>
      (Token.step? mode character).bind fun (tokens, next) =>
        (tokens.foldlM (Assembly.step? fileLimits) assembly).bind fun assembly =>
          resume? next assembly rest

/-- The tree that is complete once a text has ended. -/
def Assembly.result? (assembly : Assembly) : Option Json :=
  match assembly.awaiting with
  | .nothing result => some result
  | _ => none

/-- Tokens that are collected first make no difference. -/
theorem foldlM_next?_bind (start : Assembly) (tokens : List Token) (mode : Mode)
    (characters : List Char) :
    ((characters.foldlM Reading.next? ⟨tokens, mode⟩).bind fun reading =>
      (finish? reading.mode).bind fun last =>
        (reading.tokens.reverse ++ last).foldlM (Assembly.step? fileLimits) start) =
      (tokens.reverse.foldlM (Assembly.step? fileLimits) start).bind fun assembly =>
        resume? mode assembly characters := by
  induction characters generalizing tokens mode with
  | nil =>
      simp only [List.foldlM_nil, Option.pure_def, Option.bind_some, List.foldlM_append, resume?,
        Option.bind_eq_bind]
      exact Option.bind_comm _ _
  | cons character rest ih =>
      simp only [List.foldlM_cons, Reading.next?, resume?, Option.bind_eq_bind]
      rw [Option.bind_comm]
      cases Token.step? mode character with
      | none => simp
      | some stepped =>
          rcases stepped with ⟨completed, next⟩
          rw [Option.map_some, Option.bind_some, ih, Option.bind_some, List.reverse_append,
            List.reverse_reverse, List.foldlM_append, Option.bind_eq_bind, Option.bind_assoc]

theorem ofText?_eq (text : String) :
    ofText? text = (resume? .between ⟨[], .value⟩ text.toList).bind Assembly.result? := by
  have together := foldlM_next?_bind ⟨[], .value⟩ [] .between text.toList
  simp only [List.reverse_nil, List.foldlM_nil, Option.pure_def, Option.bind_some] at together
  rw [← together]
  simp only [ofText?, parse?, Token.ofChars?, ofTokens?, Option.bind_eq_bind, Option.pure_def,
    Option.bind_assoc, Option.bind_some]
  rfl

/-! ## Signs and blanks -/

variable {assembly : Assembly} {tail : List Char}

@[simp]
theorem resume?_between_nil (assembly : Assembly) :
    resume? .between assembly [] = some assembly :=
  rfl

theorem resume?_between_cons (assembly : Assembly) (character : Char) (tail : List Char) :
    resume? .between assembly (character :: tail) =
      (start? character).bind fun (tokens, next) =>
        (tokens.foldlM (Assembly.step? fileLimits) assembly).bind fun assembly =>
          resume? next assembly tail :=
  rfl

/-- A sign is a token by itself. -/
theorem resume?_sign {sign : Char} {token : Token} (starts : start? sign = some ([token], .between))
    (assembly : Assembly) (tail : List Char) :
    resume? .between assembly (sign :: tail) =
      (assembly.step? fileLimits token).bind fun assembly => resume? .between assembly tail := by
  simp [resume?_between_cons, starts]

theorem resume?_space (assembly : Assembly) (tail : List Char) :
    resume? .between assembly (' ' :: tail) = resume? .between assembly tail :=
  rfl

theorem resume?_lineBreak (indent : Bool) (level : Nat) :
    resume? .between assembly (lineBreak indent level tail) = resume? .between assembly tail := by
  have spaces (count : Nat) : resume? .between assembly (List.replicate count ' ' ++ tail) =
      resume? .between assembly tail := by
    induction count with
    | zero => rfl
    | succ count ih => rw [List.replicate_succ, List.cons_append, resume?_space, ih]
  cases indent with
  | false => rfl
  | true => exact spaces (2 * level)

theorem resume?_writeColon (indent : Bool) :
    resume? .between assembly (writeColon indent tail) =
      (assembly.step? fileLimits .colon).bind fun assembly => resume? .between assembly tail := by
  cases indent with
  | false => exact resume?_sign rfl assembly tail
  | true => exact resume?_sign rfl assembly (' ' :: tail)

/-! ## Words and numbers -/

/-- Whether a number or a word that stands before the rest of a text ends there. -/
def EndsToken : List Char → Prop
  | [] => True
  | character :: _ => character.isAlpha = false ∧ isNumeralChar character = false

theorem endsToken_lineBreak {indent : Bool} {level : Nat} (ends : EndsToken tail) :
    EndsToken (lineBreak indent level tail) := by
  cases indent with
  | false => exact ends
  | true => exact ⟨by decide, by decide⟩

/-- A word or a number is complete where the rest of a text ends it. -/
theorem resume?_ended {mode : Mode} {seen : List Char} {token : Token}
    (isOpen : mode = .word seen ∨ mode = .number seen) (finishes : finish? mode = some [token])
    (ends : EndsToken tail) :
    resume? mode assembly tail =
      (assembly.step? fileLimits token).bind fun assembly => resume? .between assembly tail := by
  cases tail with
  | nil =>
      rw [resume?, finishes]
      simp
  | cons character rest =>
      have breaks : Token.step? mode character =
          (start? character).map fun (tokens, next) => (token :: tokens, next) := by
        rcases isOpen with rfl | rfl
        · simp only [Token.step?, ends.1, Bool.false_eq_true, if_false, finishes]
          cases start? character <;> simp
        · simp only [Token.step?, ends.2, Bool.false_eq_true, if_false, finishes]
          cases start? character <;> simp
      rw [resume?, breaks]
      simp only [resume?_between_cons]
      rw [Option.bind_comm]
      cases start? character <;> simp [Option.bind_assoc]

/-! ## Whole numbers -/

namespace Numeral

/-- The numeral that a whole number is written as. -/
def ofInt (value : Int) : Numeral where
  negative := decide (value < 0)
  digits := value.natAbs
  exponent := 0
  plain := true

theorem natOfDigits_toDigits (number : Nat) : natOfDigits (Nat.toDigits 10 number) = number := by
  have read := Nat.ofDigitChars_toDigits (b := 10) (n := number) (by decide) (by decide)
  rwa [Nat.ofDigitChars_eq_foldl] at read

/-- Only zero is written with a zero in front. -/
theorem head?_toDigits_ne {number : Nat} (notZero : 0 < number) :
    (Nat.toDigits 10 number).head? ≠ some '0' := by
  induction number using Nat.strongRecOn with
  | ind number ih =>
      rw [Nat.toDigits_eq_if (by decide)]
      split
      · rename_i isDigit
        interval_cases number <;> decide
      · rename_i isLong
        rw [List.head?_append, List.head?_eq_some_head Nat.toDigits_ne_nil]
        rw [Option.some_or, ← List.head?_eq_some_head]
        exact ih (number / 10) (by omega) (by omega)

/-- Digits without an idle zero in front, behind a sign or not, are read as a number. -/
theorem ofChars?_digits {digits : List Char} (notEmpty : digits ≠ [])
    (areDigits : ∀ digit ∈ digits, digit.isDigit = true)
    (noZero : 1 < digits.length → digits.head? ≠ some '0') :
    ofChars? digits = some ⟨false, natOfDigits digits, 0, true⟩ ∧
      ofChars? ('-' :: digits) = some ⟨true, natOfDigits digits, 0, true⟩ := by
  have whole : digits.takeWhile Char.isDigit = digits := List.takeWhile_eq_self_iff.mpr areDigits
  have nothingElse : digits.dropWhile Char.isDigit = [] := by
    rwa [List.dropWhile_eq_nil_iff]
  have notSign : ∀ rest, digits ≠ '-' :: rest := by
    rintro rest rfl
    exact absurd (areDigits '-' (by simp)) (by decide)
  have accepted : (digits.isEmpty || (1 < digits.length && digits.head? == some '0')) = false := by
    simpa [notEmpty] using noZero
  constructor
  · unfold ofChars?
    split
    rename_i negative unsigned splits
    split at splits
    · exact absurd rfl (notSign _)
    · obtain ⟨rfl, rfl⟩ := Prod.mk.inj splits
      simp [whole, nothingElse, accepted]
  · simp [ofChars?, whole, nothingElse, accepted]

theorem ofChars?_writeInt (value : Int) : ofChars? (writeInt value []) = some (ofInt value) := by
  have readDigits (number : Nat) :
      ofChars? (Nat.toDigits 10 number) = some ⟨false, number, 0, true⟩ ∧
        ofChars? ('-' :: Nat.toDigits 10 number) = some ⟨true, number, 0, true⟩ := by
    nth_rewrite 2 [← natOfDigits_toDigits number]
    nth_rewrite 4 [← natOfDigits_toDigits number]
    apply ofChars?_digits Nat.toDigits_ne_nil
    · intro digit isDigit
      exact Nat.isDigit_of_mem_toDigits (b := 10) (by decide) (by decide) isDigit
    · intro isLong
      apply head?_toDigits_ne
      rcases Nat.eq_zero_or_pos number with rfl | positive
      · exact absurd isLong (by decide)
      · exact positive
  cases value with
  | ofNat number =>
      rw [writeInt, List.append_nil, (readDigits number).1]
      rfl
  | negSucc number =>
      rw [writeInt, List.append_nil, (readDigits (number + 1)).2]
      simp [ofInt]

/-- A whole number is read back, if a file keeps its kind. -/
theorem toJson?_ofInt {value : Int} (storable : isStorable value = true) :
    (ofInt value).toJson? fileLimits = some (.int value) := by
  have signed : (if value < 0 then -(value.natAbs : Int) else value.natAbs) = value := by
    split <;> omega
  simp only [toJson?, ofInt, decide_eq_true_eq, signed, storable, Bool.or_true, Bool.and_true,
    if_true]

end Numeral

theorem writeInt_eq_append (value : Int) (tail : List Char) :
    writeInt value tail = writeInt value [] ++ tail := by
  cases value <;> simp [writeInt]

theorem isNumeralChar_of_mem_writeInt {value : Int} {character : Char}
    (isWritten : character ∈ writeInt value []) : isNumeralChar character = true := by
  have ofDigit {number : Nat} (isDigit : character ∈ Nat.toDigits 10 number) :
      isNumeralChar character = true := by
    simp [isNumeralChar, Nat.isDigit_of_mem_toDigits (by decide) (by decide) isDigit]
  cases value with
  | ofNat number => exact ofDigit (by simpa [writeInt] using isWritten)
  | negSucc number =>
      rw [writeInt, List.append_nil, List.mem_cons] at isWritten
      rcases isWritten with rfl | isDigit
      · rfl
      · exact ofDigit isDigit

theorem resume?_numeralChars {seen written : List Char}
    (areNumeral : ∀ character ∈ written, isNumeralChar character = true) :
    resume? (.number seen) assembly (written ++ tail) =
      resume? (.number (written.reverse ++ seen)) assembly tail := by
  induction written generalizing seen with
  | nil => rfl
  | cons character rest ih =>
      rcases List.forall_mem_cons.mp areNumeral with ⟨isNumeral, restNumeral⟩
      rw [List.cons_append, resume?, Token.step?, if_pos isNumeral, List.reverse_cons,
        List.append_assoc, List.singleton_append, ← ih restNumeral]
      rfl

/-- The first character of a number tells that it is one. -/
theorem start?_writeInt (value : Int) : ∃ first rest, writeInt value [] = first :: rest ∧
    start? first = some ([], .number [first]) := by
  have startDigit {digit : Char} (isDigit : digit.isDigit = true) :
      start? digit = some ([], .number [digit]) := by
    have differs (other : Char) (notDigit : other.isDigit = false) : digit ≠ other := by
      rintro rfl
      simp [isDigit] at notDigit
    simp [start?, Token.isSpace, isDigit, differs ' ' rfl, differs '\n' rfl, differs '\r' rfl,
      differs '\t' rfl, differs '[' rfl, differs ']' rfl, differs '\x7b' rfl, differs '\x7d' rfl,
      differs ',' rfl, differs ':' rfl, differs '"' rfl]
  cases value with
  | ofNat number =>
      rcases List.exists_cons_of_ne_nil (Nat.toDigits_ne_nil (b := 10) (n := number)) with
        ⟨first, rest, digitsAre⟩
      refine ⟨first, rest, by simp [writeInt, digitsAre], startDigit ?_⟩
      apply Nat.isDigit_of_mem_toDigits (b := 10) (n := number) (by decide) (by decide)
      simp [digitsAre]
  | negSucc number => exact ⟨'-', _, rfl, rfl⟩

theorem resume?_writeInt (value : Int) (ends : EndsToken tail) :
    resume? .between assembly (writeInt value tail) =
      (assembly.step? fileLimits (.number (.ofInt value))).bind fun assembly =>
        resume? .between assembly tail := by
  rcases start?_writeInt value with ⟨first, rest, writtenIs, starts⟩
  have finishes : finish? (.number (rest.reverse ++ [first])) =
      some [.number (.ofInt value)] := by
    have read := Numeral.ofChars?_writeInt value
    rw [writtenIs] at read
    simp [finish?, read]
  have areNumeral : ∀ character ∈ rest, isNumeralChar character = true := by
    intro character isRest
    apply isNumeralChar_of_mem_writeInt
    rw [writtenIs]
    exact List.mem_cons_of_mem first isRest
  rw [writeInt_eq_append, writtenIs, List.cons_append, resume?_between_cons, starts]
  simp only [Option.bind_some, List.foldlM_nil, Option.pure_def]
  rw [resume?_numeralChars areNumeral]
  exact resume?_ended (.inr rfl) finishes ends

/-! ## Strings -/

/-- The four digits of a control character, and what each of them is read as. -/
theorem hexadecimal_control : ∀ code < 0x20,
    Text.hexadecimal 4 code =
        ['0', '0', Nat.digitChar (code / 16), Nat.digitChar (code % 16)] ∧
      Token.hexValue? (Nat.digitChar (code / 16)) = some (code / 16) ∧
      Token.hexValue? (Nat.digitChar (code % 16)) = some (code % 16) := by
  decide

theorem resume?_hexadecimal (seen : List Char) {code : Nat} (isControl : code < 0x20) :
    resume? (.hex seen none 4 0) assembly (Text.hexadecimal 4 code ++ tail) =
      resume? (.text (Char.ofNat code :: seen)) assembly tail := by
  rcases hexadecimal_control code isControl with ⟨digitsAre, high, low⟩
  have zero : Token.hexValue? '0' = some 0 := rfl
  have codeIs : 16 * (code / 16) + code % 16 = code := Nat.div_add_mod code 16
  have after : Token.afterHex? seen none code = some (.text (Char.ofNat code :: seen)) := by
    simp only [Token.afterHex?]
    rw [if_neg (by omega), if_neg (by omega)]
  simp [digitsAre, resume?, Token.step?, zero, high, low, codeIs, after]

/-- An escaped character is read as the character itself. -/
theorem resume?_escapedChar (seen : List Char) (character : Char) :
    resume? (.text seen) assembly (escapedChar character ++ tail) =
      resume? (.text (character :: seen)) assembly tail := by
  unfold escapedChar
  split_ifs with isQuote isBackslash isBackspace isFormFeed isNewline isReturn isTab isControl
  · rw [isQuote]
    rfl
  · rw [isBackslash]
    rfl
  · rw [isBackspace]
    rfl
  · rw [isFormFeed]
    rfl
  · rw [isNewline]
    rfl
  · rw [isReturn]
    rfl
  · rw [isTab]
    rfl
  · nth_rewrite 2 [← Char.ofNat_toNat character]
    exact resume?_hexadecimal seen isControl
  · simp [resume?, Token.step?, isQuote, isBackslash, isControl]

theorem resume?_writeChars (seen characters : List Char) :
    resume? (.text seen) assembly (writeChars characters ('"' :: tail)) =
      (assembly.step? fileLimits (.str (String.ofList (seen.reverse ++ characters)))).bind
        fun assembly => resume? .between assembly tail := by
  induction characters generalizing seen with
  | nil => simp [writeChars, resume?, Token.step?]
  | cons character rest ih =>
      rw [writeChars, resume?_escapedChar, ih]
      simp

theorem resume?_writeString (text : String) :
    resume? .between assembly (writeString text tail) =
      (assembly.step? fileLimits (.str text)).bind fun assembly =>
        resume? .between assembly tail := by
  have opens : start? '"' = some ([], .text []) := rfl
  simp [writeString, resume?_between_cons, opens, resume?_writeChars]

end ClassLift.Json

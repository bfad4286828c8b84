import ClassLift.Json.Token

/-!
# Reading trees

Tokens are put together to a tree by a machine with a stack of the containers
that are still open. The number of open containers, and the size of whole
numbers, may be limited.
-/

namespace ClassLift.Json

/-- Whole numbers from `-2 ^ 63` up to `2 ^ 64 - 1` keep their kind in written text. -/
def isStorable (value : Int) : Bool :=
  -(Nat.pow 2 63) ≤ value && value < Nat.pow 2 64

/--
What a reader accepts: how many containers may be open at once, if that is
limited, and whether whole numbers keep their kind at any size. Otherwise one
that is not storable is read as the nearest binary number.
-/
structure ReadLimits where
  depth : Option Nat
  anySize : Bool

/-- The number a numeral stands for; beyond the finite numbers there is none. -/
def Numeral.toJson? (limits : ReadLimits) (numeral : Numeral) : Option Json :=
  let value : Int := if numeral.negative then -(numeral.digits : Int) else numeral.digits
  if numeral.plain && (limits.anySize || isStorable value) then some (.int value)
  else (Binary64.ofDecimal? numeral.negative numeral.digits numeral.exponent).map .float

/-- An open container: the items so far, the latest first, or the fields and the latest key. -/
inductive Frame where
  | list (items : List Json)
  | object (fields : List (String × Json)) (key : String)

/-- What the reader waits for. -/
inductive Awaiting where
  | value
  | firstItem
  | firstKey
  | key
  | colon
  | separator
  | nothing (result : Json)

structure Assembly where
  stack : List Frame
  awaiting : Awaiting

namespace Assembly

/-- Hands a complete value to the innermost open container. -/
def complete (value : Json) : List Frame → Assembly
  | [] => ⟨[], .nothing value⟩
  | .list items :: outer => ⟨.list (value :: items) :: outer, .separator⟩
  | .object fields key :: outer => ⟨.object (setField key value fields) key :: outer, .separator⟩

def opened? (limits : ReadLimits) (stack : List Frame) (awaiting : Awaiting) : Option Assembly :=
  match limits.depth with
  | none => some ⟨stack, awaiting⟩
  | some depth => if stack.length ≤ depth then some ⟨stack, awaiting⟩ else none

/-- The start of a value. -/
def begin? (limits : ReadLimits) (stack : List Frame) : Token → Option Assembly
  | .openList => opened? limits (.list [] :: stack) .firstItem
  | .openObject => opened? limits (.object [] "" :: stack) .firstKey
  | .null => some (complete .null stack)
  | .bool value => some (complete (.bool value) stack)
  | .str text => some (complete (.str text) stack)
  | .number numeral => (numeral.toJson? limits).map (complete · stack)
  | .closeList | .closeObject | .comma | .colon => none

def step? (limits : ReadLimits) (assembly : Assembly) (token : Token) : Option Assembly :=
  match assembly.awaiting, assembly.stack, token with
  | .firstItem, .list _ :: outer, .closeList => some (complete (.arr []) outer)
  | .firstItem, stack, token => begin? limits stack token
  | .value, stack, token => begin? limits stack token
  | .firstKey, .object _ _ :: outer, .closeObject => some (complete (.obj []) outer)
  | .firstKey, .object fields _ :: outer, .str key => some ⟨.object fields key :: outer, .colon⟩
  | .key, .object fields _ :: outer, .str key => some ⟨.object fields key :: outer, .colon⟩
  | .colon, stack, .colon => some ⟨stack, .value⟩
  | .separator, .list items :: outer, .comma => some ⟨.list items :: outer, .value⟩
  | .separator, .list items :: outer, .closeList => some (complete (.arr items.reverse) outer)
  | .separator, .object fields key :: outer, .comma => some ⟨.object fields key :: outer, .key⟩
  | .separator, .object fields _ :: outer, .closeObject => some (complete (.obj fields) outer)
  | _, _, _ => none

end Assembly

/-- The tree that a list of tokens spells. -/
def ofTokens? (limits : ReadLimits) (tokens : List Token) : Option Json := do
  let assembly ← tokens.foldlM (Assembly.step? limits) ⟨[], .value⟩
  match assembly.awaiting with
  | .nothing result => some result
  | _ => none

/-- The tree that a text spells. -/
def parse? (limits : ReadLimits) (text : String) : Option Json := do
  let tokens ← Token.ofChars? text.toList
  ofTokens? limits tokens

/-- Files are read down to 1024 nested containers. -/
def fileLimits : ReadLimits where
  depth := some 1024
  anySize := false

/-- Reads the text of a file. -/
def ofText? (text : String) : Option Json :=
  parse? fileLimits text

end ClassLift.Json

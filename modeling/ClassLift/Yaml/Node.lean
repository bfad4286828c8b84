import ClassLift.Yaml.Scalar
import ClassLift.Yaml.Token

/-!
# Nodes of a configuration text

The tokens of a text spell one document: a scalar, a sequence or a mapping, with
more of them inside. An alias stands for the node that was given its name as an
anchor, which may be a node that the alias is part of. So nodes refer to one
another by number.
-/

namespace ClassLift.Yaml

/-- What a node holds; the nodes inside it are given by their numbers. -/
inductive NodeContent where
  | scalar (text : ScalarText)
  | sequence (items : List Nat)
  | mapping (pairs : List (Nat × Nat))
deriving Inhabited

structure Node where
  kind : Kind
  content : NodeContent
deriving Inhabited

namespace Node

/-- The node that stands where nothing is written. -/
def nothing : Node :=
  ⟨.nothing, .scalar ⟨[], false⟩⟩

/-- The kind of a node with the given tag, or with the given one if it has no tag of its own. -/
def kindOf (tag : Option (List Char)) (untagged : Kind) : Kind :=
  match tag with
  | none | some ['!'] => untagged
  | some tag => .ofTag (String.ofList tag)

/-- A scalar with its tag. One that is not plain is a text, unless an empty tag asks for more. -/
def ofScalar (tag : Option (List Char)) (text : List Char) (form : ScalarForm) : Node :=
  let untagged := if form = .plain ∨ tag.isSome then Kind.ofPlain text else .text
  let untagged := if form = .broken then .text else untagged
  ⟨kindOf tag untagged, .scalar ⟨text, form == .broken⟩⟩

def ofSequence (tag : Option (List Char)) (items : List Nat) : Node :=
  ⟨kindOf tag .sequence, .sequence items⟩

def ofMapping (tag : Option (List Char)) (pairs : List (Nat × Nat)) : Node :=
  ⟨kindOf tag .mapping, .mapping pairs⟩

end Node

/-- The tokens still to be read, the nodes read so far, their names, and the handles of tags. -/
structure NodeReader where
  tokens : List Token
  nodes : Array Node
  anchors : List (List Char × Nat)
  handles : List (List Char × List Char)

/-- A step of reading nodes, which can fail. -/
abbrev ReadNode (α : Type) := StateT NodeReader (Except ReadFault) α

namespace ReadNode

def refuse {α : Type} : ReadNode α :=
  throw .malformed

/-- The next token; where the text cannot be read any further, nothing can. -/
def peek : ReadNode (Option Token) := do
  match (← get).tokens.head? with
  | some (.stop fault) => throw fault
  | token => return token

def drop : ReadNode Unit :=
  modify fun reader => { reader with tokens := reader.tokens.tail }

/-- Takes the token if it comes next. -/
def take (token : Token) : ReadNode Bool := do
  if (← peek) == some token then
    drop
    return true
  else return false

/-- The token must come next. -/
def expect (token : Token) : ReadNode Unit := do
  if !(← take token) then refuse

/-- Whether one of the tokens comes next, or none at all. -/
def nextIn (tokens : List Token) : ReadNode Bool := do
  match ← peek with
  | some token => return tokens.contains token
  | none => return true

/-- Makes room for a node that is about to be read. -/
def reserve : ReadNode Nat := do
  let number := (← get).nodes.size
  modify fun reader => { reader with nodes := reader.nodes.push .nothing }
  return number

/-- Sets the node of a number. -/
def setNode (number : Nat) (node : Node) : ReadNode Unit :=
  modify fun reader => { reader with nodes := reader.nodes.setIfInBounds number node }

/-- Adds a node. -/
def add (node : Node) : ReadNode Nat := do
  let number ← reserve
  setNode number node
  return number

/-- The full name of a tag. -/
def expandTag (handle : Option (List Char)) (suffix : List Char) : ReadNode (List Char) := do
  match handle with
  | none => return suffix
  | some handle =>
      match (← get).handles.lookup handle with
      | some replacement => return replacement ++ suffix
      | none => refuse

def takeAnchor : ReadNode (Option (List Char)) := do
  match ← peek with
  | some (.anchor name) =>
      drop
      return some name
  | _ => return none

/-- A tag as it is written: a handle, if it has one, and the rest of its name. -/
def takeTag : ReadNode (Option (Option (List Char) × List Char)) := do
  match ← peek with
  | some (.tag handle suffix) =>
      drop
      return some (handle, suffix)
  | _ => return none

/-- An anchor and the full name of a tag, in either order. -/
def properties : ReadNode (Option (List Char) × Option (List Char)) := do
  match ← takeAnchor with
  | some name =>
      let tag ← takeTag
      return (some name, ← tag.mapM fun (handle, suffix) => expandTag handle suffix)
  | none =>
      let tag ← takeTag
      let anchor ← if tag.isSome then takeAnchor else pure none
      return (anchor, ← tag.mapM fun (handle, suffix) => expandTag handle suffix)

/-- Names the node of a number; each name is given once. -/
def declare (anchor : Option (List Char)) (number : Nat) : ReadNode Unit := do
  match anchor with
  | none => return
  | some name =>
      if ((← get).anchors.lookup name).isSome then refuse
      modify fun reader => { reader with anchors := (name, number) :: reader.anchors }

def resolveAlias (name : List Char) : ReadNode Nat := do
  match (← get).anchors.lookup name with
  | some number => return number
  | none => refuse

end ReadNode

/-- Where a node stands: inside brackets, in a block, or as a value in a block mapping. -/
inductive Position where
  | flow
  | block
  | blockValue
deriving DecidableEq

open ReadNode

mutual

/-- A node; as a value in a block mapping, a sequence need not be indented. -/
def readNode (position : Position) : Nat → ReadNode Nat
  | 0 => refuse
  | fuel + 1 => do
      match ← peek with
      | some (.alias name) =>
          drop
          resolveAlias name
      | _ =>
          let (anchor, tag) ← properties
          let _ ← peek
          let number ← reserve
          declare anchor number
          setNode number (← readContent position (anchor.isSome || tag.isSome) tag fuel)
          return number

/-- What follows the anchor and tag of a node. -/
def readContent (position : Position) (hasProperties : Bool) (tag : Option (List Char)) :
    Nat → ReadNode Node
  | 0 => refuse
  | fuel + 1 => do
      match ← peek, position with
      | some .blockEntry, .blockValue => return .ofSequence tag (← readLooseEntries fuel)
      | some (.scalar text form), _ =>
          drop
          return .ofScalar tag text form
      | some .flowSequenceStart, _ =>
          drop
          return .ofSequence tag (← readFlowItems true fuel)
      | some .flowMappingStart, _ =>
          drop
          return .ofMapping tag (← readFlowPairs true fuel)
      | some .blockSequenceStart, .block | some .blockSequenceStart, .blockValue =>
          drop
          return .ofSequence tag (← readBlockEntries fuel)
      | some .blockMappingStart, .block | some .blockMappingStart, .blockValue =>
          drop
          return .ofMapping tag (← readBlockPairs fuel)
      | _, _ => if hasProperties then return .ofScalar tag [] .plain else refuse

/-- A node, or nothing if one of the tokens comes next. -/
def readUnless (position : Position) (ends : List Token) : Nat → ReadNode Nat
  | 0 => refuse
  | fuel + 1 => do
      if ← nextIn ends then add .nothing else readNode position fuel

/-- The entries of a block sequence, to its end. -/
def readBlockEntries : Nat → ReadNode (List Nat)
  | 0 => refuse
  | fuel + 1 => do
      if ← take .blockEntry then
        let item ← readUnless .block [.blockEntry, .blockEnd] fuel
        return item :: (← readBlockEntries fuel)
      else
        expect .blockEnd
        return []

/-- The entries of a sequence that is not indented. -/
def readLooseEntries : Nat → ReadNode (List Nat)
  | 0 => refuse
  | fuel + 1 => do
      if ← take .blockEntry then
        let item ← readUnless .block [.blockEntry, .key, .value, .blockEnd] fuel
        return item :: (← readLooseEntries fuel)
      else return []

/-- The value after a key of a block mapping. -/
def readBlockValue : Nat → ReadNode Nat
  | 0 => refuse
  | fuel + 1 => do
      if ← take .value then readUnless .blockValue [.key, .value, .blockEnd] fuel
      else add .nothing

/-- The keys and values of a block mapping, to its end. -/
def readBlockPairs : Nat → ReadNode (List (Nat × Nat))
  | 0 => refuse
  | fuel + 1 => do
      if ← take .key then
        let key ← readUnless .blockValue [.key, .value, .blockEnd] fuel
        let value ← readBlockValue fuel
        return (key, value) :: (← readBlockPairs fuel)
      else
        expect .blockEnd
        return []

/-- The items of a sequence in brackets; an item with a colon is a mapping of its own. -/
def readFlowItems (first : Bool) : Nat → ReadNode (List Nat)
  | 0 => refuse
  | fuel + 1 => do
      if ← take .flowSequenceEnd then return []
      if !first then expect .flowEntry
      if ← take .key then
        let key ← readUnless .flow [.value, .flowEntry, .flowSequenceEnd] fuel
        let value ←
          if ← take .value then readUnless .flow [.flowEntry, .flowSequenceEnd] fuel
          else add .nothing
        let item ← add (.ofMapping none [(key, value)])
        return item :: (← readFlowItems false fuel)
      else if ← take .flowSequenceEnd then return []
      else
        let item ← readNode .flow fuel
        return item :: (← readFlowItems false fuel)

/-- The keys and values of a mapping in braces. -/
def readFlowPairs (first : Bool) : Nat → ReadNode (List (Nat × Nat))
  | 0 => refuse
  | fuel + 1 => do
      if ← take .flowMappingEnd then return []
      if !first then expect .flowEntry
      if ← take .key then
        let key ← readUnless .flow [.value, .flowEntry, .flowMappingEnd] fuel
        let value ←
          if ← take .value then readUnless .flow [.flowEntry, .flowMappingEnd] fuel
          else add .nothing
        return (key, value) :: (← readFlowPairs false fuel)
      else if ← take .flowMappingEnd then return []
      else
        let key ← readNode .flow fuel
        let value ← add .nothing
        return (key, value) :: (← readFlowPairs false fuel)

end

namespace ReadNode

/-- The directives before a document: one version at most, and each handle once. -/
def directives : Nat → Bool → List (List Char) → ReadNode Unit
  | 0, _, _ => refuse
  | fuel + 1, versioned, defined => do
      match ← peek with
      | some (.version major) =>
          if versioned || major != 1 then refuse
          drop
          directives fuel true defined
      | some (.tagHandle handle replacement) =>
          if defined.contains handle then refuse
          drop
          modify fun reader =>
            { reader with handles := (handle, replacement) :: reader.handles }
          directives fuel versioned (handle :: defined)
      | some .otherDirective =>
          drop
          directives fuel versioned defined
      | _ => return

def isDirective : Token → Bool
  | .version _ | .tagHandle _ _ | .otherDirective => true
  | _ => false

/-- The node of a document that starts with a marker. -/
def markedDocument (fuel : Nat) : ReadNode Nat := do
  directives fuel false []
  expect .documentStart
  match ← peek with
  | none => add .nothing
  | some token =>
      if isDirective token || token == .documentStart || token == .documentEnd then
        add .nothing
      else readNode .block fuel

/-- The only document of a text, if there is one. -/
def document (fuel : Nat) : ReadNode (Option Nat) := do
  match ← peek with
  | none => return none
  | some token =>
      let root ←
        if isDirective token || token == .documentStart then markedDocument fuel
        else readNode .block fuel
      modify fun reader =>
        { reader with tokens := reader.tokens.dropWhile (· == .documentEnd) }
      if (← peek).isSome then refuse
      return some root

end ReadNode

/-- The handles of tags that need no directive. -/
def standardHandles : List (List Char × List Char) :=
  [("!".toList, "!".toList), ("!!".toList, "tag:yaml.org,2002:".toList)]

/-- The nodes of a text, and the number of the outermost one; an empty text has none. -/
structure Composition where
  nodes : Array Node
  root : Option Nat

def Composition.ofText (text : String) : Except ReadFault Composition := do
  let tokens := Token.ofChars text.toList
  let fuel := 8 * tokens.length + 8
  let (root, reader) ← (ReadNode.document fuel).run ⟨tokens, #[], [], standardHandles⟩
  return ⟨reader.nodes, root⟩

end ClassLift.Yaml

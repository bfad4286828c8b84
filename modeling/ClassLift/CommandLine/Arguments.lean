/-!
# Command-line arguments

The arguments of a command are options, with or without a value, and positional
words. An option has a long name after two hyphens, and may have a one-letter
name after one hyphen; letters can be written together, and a value can follow
its letter directly. After a lone double hyphen every word is positional.
-/

namespace ClassLift.CommandLine

structure OptionSpec where
  name : String
  letter : Option Char
  takesValue : Bool

/-- An option that was given: its name and its value, if it takes one. -/
structure Setting where
  name : String
  value : Option String

/-- The arguments of a command; of repeated options the last one counts. -/
structure Arguments where
  settings : List Setting
  positional : List String

namespace Arguments

def value? (arguments : Arguments) (name : String) : Option String :=
  ((arguments.settings.filter (·.name == name)).getLast?).bind (·.value)

def isSet (arguments : Arguments) (name : String) : Bool :=
  arguments.settings.any (·.name == name)

end Arguments

/-- What a single word of the command line means. -/
inductive Word where
  | positional (text : String)
  | settings (settings : List Setting)
  /-- Options, the last of which takes the next word as its value. -/
  | awaitsValue (settings : List Setting) (name : String)
  | endOfOptions

/-- A word of option letters. -/
def readLetters (specs : List OptionSpec) : List Char → Option Word
  | [] => some (.settings [])
  | letter :: rest =>
      match specs.find? (·.letter == some letter) with
      | none => none
      | some spec =>
          if spec.takesValue then
            if rest.isEmpty then some (.awaitsValue [] spec.name)
            else some (.settings [⟨spec.name, some (String.ofList rest)⟩])
          else
            match readLetters specs rest with
            | some (.settings settings) => some (.settings (⟨spec.name, none⟩ :: settings))
            | some (.awaitsValue settings name) =>
                some (.awaitsValue (⟨spec.name, none⟩ :: settings) name)
            | _ => none

/-- A word that starts with two hyphens; a value may follow an equals sign. -/
def readLong (specs : List OptionSpec) (characters : List Char) : Option Word :=
  let name := characters.takeWhile (· != '=')
  let value? :=
    match characters.drop name.length with
    | _ :: value => some (String.ofList value)
    | [] => none
  match specs.find? (·.name.toList == name), value? with
  | none, _ => none
  | some spec, some value => if spec.takesValue then some (.settings [⟨spec.name, value⟩]) else none
  | some spec, none =>
      some (if spec.takesValue then .awaitsValue [] spec.name else .settings [⟨spec.name, none⟩])

def readWord (specs : List OptionSpec) (word : String) : Option Word :=
  match word.toList with
  | ['-', '-'] => some .endOfOptions
  | '-' :: '-' :: name => readLong specs name
  | '-' :: letter :: letters => readLetters specs (letter :: letters)
  | _ => some (.positional word)

/-- Reads the words of a command line, unless they do not fit the options. -/
def readArguments (specs : List OptionSpec) : List String → Option Arguments
  | [] => some ⟨[], []⟩
  | word :: rest =>
      match readWord specs word with
      | none => none
      | some .endOfOptions => some ⟨[], rest⟩
      | some (.positional text) => do
          let arguments ← readArguments specs rest
          return { arguments with positional := text :: arguments.positional }
      | some (.settings settings) => do
          let arguments ← readArguments specs rest
          return { arguments with settings := settings ++ arguments.settings }
      | some (.awaitsValue settings name) =>
          match rest with
          | [] => none
          | value :: others => do
              let arguments ← readArguments specs others
              return { arguments with
                settings := settings ++ ⟨name, some value⟩ :: arguments.settings }

end ClassLift.CommandLine

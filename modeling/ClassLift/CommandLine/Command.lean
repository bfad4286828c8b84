import ClassLift.CommandLine.Arguments

/-!
# Commands

The program has two commands: one converts a file, the other writes a new
configuration file.
-/

namespace ClassLift.CommandLine

/-- What is to be converted, how, and where to. -/
structure ConvertRequest where
  source : String
  output : Option String
  config : Option String
  target : Option String
  constructorName : Option String
  superclass : Option String
  callee : Option String
  keepLocations : Bool
  verbose : Bool

inductive Command where
  | convert (request : ConvertRequest)
  | init (output : String)
  | help

def helpOption : OptionSpec :=
  ⟨"help", none, false⟩

def convertOptions : List OptionSpec :=
  [⟨"output", some 'o', true⟩, ⟨"config", some 'c', true⟩, ⟨"target", some 't', true⟩,
   ⟨"constructor-name", none, true⟩, ⟨"extends", some 'e', true⟩, ⟨"callee", none, true⟩,
   ⟨"keep-locations", none, false⟩, ⟨"verbose", some 'v', false⟩, helpOption]

def initOptions : List OptionSpec :=
  [⟨"output", some 'o', true⟩, helpOption]

def defaultConfigPath : String :=
  "./classmorph.yaml"

def readConvert (words : List String) : Option Command := do
  let arguments ← readArguments convertOptions words
  if arguments.isSet "help" then return .help
  match arguments.positional with
  | [source] =>
      return .convert {
        source
        output := arguments.value? "output"
        config := arguments.value? "config"
        target := arguments.value? "target"
        constructorName := arguments.value? "constructor-name"
        superclass := arguments.value? "extends"
        callee := arguments.value? "callee"
        keepLocations := arguments.isSet "keep-locations"
        verbose := arguments.isSet "verbose" }
  | _ => none

def readInit (words : List String) : Option Command := do
  let arguments ← readArguments initOptions words
  if arguments.isSet "help" then return .help
  if arguments.positional.isEmpty then
    return .init ((arguments.value? "output").getD defaultConfigPath)
  else none

/-- The command that words give which start with its name. -/
def Command.ofNamed? : List String → Option Command
  | "convert" :: words => readConvert words
  | "init" :: words => readInit words
  | _ => none

/-- The command that the words of a command line give, unless they give none. -/
def Command.ofWords? : List String → Option Command
  | "--" :: words => Command.ofNamed? words
  | "--help" :: _ => some .help
  | words => Command.ofNamed? words

end ClassLift.CommandLine

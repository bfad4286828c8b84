import ClassLift.CommandLine.Command
import ClassLift.CommandLine.Report
import ClassLift.Config.Load
import ClassLift.Files
import ClassLift.Program
import ClassLift.Terminal.Frame
import ClassLift.Terminal.Markup
import ClassLift.Tree

/-!
# Running commands

A command reads and writes files, prints a result and reports to the user on a
second channel. Everything a command does is given by its result, so that a run
is a function of the files and the lines it can read.
-/

namespace ClassLift.CommandLine

/-- What a run leads to. -/
structure Result where
  exitCode : Nat
  output : String
  report : String
  files : Files

/-- Why a conversion stops. -/
inductive Stop where
  | usage
  | config (failure : ConfigFailure)
  | conversion (failure : Failure)
  /-- Anything else that goes wrong, with the part of its words that is known. -/
  | other (words : String)
  /-- A text cannot be shown. -/
  | notShown (fault : Terminal.MarkupFault)

namespace Stop

/-- A heading in bold red, and what follows it. -/
def headed (heading text : String) : String :=
  "[bold red]" ++ heading ++ ":[/bold red] " ++ text

/--
The text that tells why a conversion stopped, with its styles. There is none
where the text would repeat the fault that keeps another one from being shown.
-/
def text? : Stop → Option String
  | .usage => none
  | .config (.unreadable fault) =>
      if fault.isMalformed then
        some (headed "Configuration Error" (ConfigFailure.unreadable fault).text)
      else some (headed "Error" (fault.message?.getD ""))
  | .config .targetNotText => some (headed "Error" "")
  | .config failure => some (headed "Configuration Error" failure.text)
  | .conversion failure =>
      match failure, failure.message? with
      | .constructorOutside, words => some (headed "Error" (words.getD ""))
      | _, some words => some (headed "Conversion Error" words)
      | _, none => some (headed "Error" "")
  | .other words => some (headed "Error" words)
  | .notShown .unreadable => some (headed "Error" "")
  | .notShown .unopened => none

/-- What the user sees of the reason; nothing if it cannot be shown itself. -/
def report (stop : Stop) : String :=
  match stop.text?.map shownText with
  | some (.ok shown) => shown
  | some (.error _) | none => ""

/-- A fault of the file with the given path. -/
def ofPath (path : String) : Stop :=
  .other (Text.quoted path)

/-- A fault of a file that is to be written; one of the path itself does not name it. -/
def ofPathFailure (failure : PathFailure) : Stop :=
  if failure.fault = .nullCharacter then .other "" else .ofPath failure.path

end Stop

/-- What a conversion has printed and written so far. -/
structure Progress where
  output : String
  report : String
  files : Files

/-- A part of a conversion: it adds to the progress, and goes on or stops. -/
abbrev Step (α : Type) := ExceptT Stop (StateM Progress) α

namespace Step

def tell (text : String) : Step Unit :=
  modify fun progress => { progress with report := progress.report ++ text }

/-- Goes on with what can be shown. -/
def ofShown {α : Type} : Except Terminal.MarkupFault α → Step α
  | .ok shown => pure shown
  | .error fault => throw (.notShown fault)

/-- Tells a text with styles. -/
def say (text : String) : Step Unit := do
  tell (← ofShown (shownText text))

def ofConfig {α : Type} : Except ConfigFailure α → Step α
  | .ok value => pure value
  | .error failure => throw (.config failure)

/-- Reports the records of a run, and goes on with its outcome. -/
def ofTraced {α : Type} (verbose : Bool) (traced : Traced α) : Step α := do
  let shown := traced.log.filter fun record => verbose || record.level != .debug
  tell (String.join (shown.map recordText))
  match traced.outcome with
  | .ok value => return value
  | .error failure => throw (.conversion failure)

/-- Looks for a file or directory that must be there. -/
def findExisting (path : String) : Step Found := do
  match (← get).files.find path with
  | .tooLong => throw (.ofPath (Path.shown path))
  | .missing | .blocked | .free _ => throw .usage
  | found => return found

end Step

open Step

/-- An option that was given and is not empty. -/
def nonEmpty (value : Option String) : Option String :=
  value.filter (· != "")

/-- The configuration to convert with, without what the command line overrides. -/
def loadConfig (path? : Option String) : Step Config := do
  match path? with
  | none => return Config.default
  | some path =>
      say ("[cyan]Loading configuration from " ++ path ++ "...[/cyan]")
      match ← findExisting path with
      | .file _ text => ofConfig (Config.ofText text)
      | _ => throw (.ofPath (Path.shown path))

def optionalText : Option String → Json
  | some text => .str text
  | none => .null

/-- The configuration with the options of the command line laid over it. -/
def configure (request : ConvertRequest) (config : Config) : Step Config := do
  let options ← ofConfig (Overrides.apply {
    target := optionalText request.target
    constructorName := optionalText request.constructorName
    extendedNamespace := optionalText request.superclass
    extended := .null
    rootObject := .null } config.conversion)
  return { config with
    conversion := options
    callee := (nonEmpty request.callee).getD config.callee }

/-- Shows the options in effect in a panel. -/
def tellOptions (config : Config) : Step Unit := do
  let options := config.conversion
  let superclass :=
    if options.extended then
      (nonEmpty options.extendedNamespace).getD "(missing)"
    else "-"
  let line (label text : String) : String :=
    "[bold cyan]" ++ label ++ ":[/bold cyan] " ++ text
  let text := Text.joined '\n' [
    line "Target" options.target.description,
    line "Constructor key" options.constructorName,
    line "Extends" superclass,
    line "Callee" config.callee]
  let shown ← ofShown (Terminal.render (Text.trimmedChars text.toList))
  tell (textOfLines (Terminal.panel "ClassMorph" shown))

def resultColumns : List Terminal.Column :=
  [⟨"Namespace", false⟩, ⟨"Class", false⟩, ⟨"Statements", true⟩, ⟨"Warnings", false⟩]

/-- The cells for a converted class. -/
def resultCells (conversion : Conversion) : List String :=
  let warnings := "; ".intercalate conversion.warnings
  [conversion.namespaceText, conversion.className, toString conversion.statements.length,
    if warnings = "" then "-" else warnings]

/-- Shows the converted classes in a table, whose cells are read column by column. -/
def tellResults (conversions : List Conversion) : Step Unit := do
  let cells := conversions.map resultCells
  let columns ← (List.range resultColumns.length).mapM fun column =>
    cells.mapM fun row => ofShown (Terminal.render (row[column]?.getD "").toList)
  let rows := (List.range conversions.length).map fun row =>
    columns.map fun column => column[row]?.getD []
  tell (textOfLines
    (Terminal.table Terminal.consoleWidth "Converted Classes" resultColumns rows))

/-- Converts the arguments of one call, if the tree is a list, or else a whole program. -/
def convertTree (config : Config) (tree : Json) : Traced Program.Converted :=
  match tree with
  | .arr _ => do
      let conversion ← Conversion.ofParameters config.conversion tree
      return ⟨conversion.program, [conversion]⟩
  | _ => Program.convert config.conversion config.callee tree

/-- Writes a tree to a file, or prints it. -/
def emit (tree : Json) (output? : Option String) (indent : Bool) : Step Unit := do
  match output? with
  | some output =>
      let saved := (← get).files.saveTree output tree indent
      modify fun progress => { progress with files := saved.files }
      match saved.failure with
      | some (.path failure) => throw (.ofPathFailure failure)
      | some .noText => throw (.other "")
      | none => say ("[green]✓[/green] Wrote " ++ Path.shown output)
  | none =>
      match tree.toText? indent with
      | some text =>
          modify fun progress => { progress with output := progress.output ++ text ++ "\n" }
      | none => throw (.other "")

/-- Performs a conversion. -/
def convertSteps (request : ConvertRequest) : Step Unit := do
  let source ← findExisting request.source
  let base ← loadConfig (nonEmpty request.config)
  let config ← configure request base
  if request.verbose then tellOptions config
  match source with
  | .file _ text =>
      match Json.ofText? text with
      | none => throw (.other "")
      | some tree =>
          let converted ← ofTraced request.verbose (convertTree config tree)
          let generated :=
            if config.output.stripLocations && !request.keepLocations then
              converted.program.stripLocations
            else converted.program
          emit generated (nonEmpty request.output) config.output.indent
          tellResults converted.conversions
  | _ => throw (.ofPath (Path.shown request.source))

def runConvert (request : ConvertRequest) (files : Files) : Result :=
  let (outcome, progress) := (convertSteps request).run.run ⟨"", "", files⟩
  match outcome with
  | .ok () => ⟨0, progress.output, progress.report, progress.files⟩
  | .error .usage => ⟨2, "", "", progress.files⟩
  | .error stop => ⟨1, progress.output, progress.report ++ stop.report, progress.files⟩

/-- What the user answers to a question, and what the dialogue looks like. -/
structure Dialogue where
  answer : Option Bool
  output : String

/-- Asks until a line is an answer; an empty line means no, and so does the end of input. -/
def confirm (question : String) : List String → Dialogue
  | [] => ⟨none, question⟩
  | line :: lines =>
      let echoed := question ++ line ++ "\n"
      let word := (Text.trimmed line).toLower
      if word = "y" ∨ word = "yes" then ⟨some true, echoed⟩
      else if word = "n" ∨ word = "no" ∨ word = "" then ⟨some false, echoed⟩
      else
        let rest := confirm question lines
        { rest with output := echoed ++ "Error: invalid input\n" ++ rest.output }

/-- Writes a new configuration file. -/
def writeTemplate (output : String) (printed : String) (files : Files) : Result :=
  match files.place output with
  | .error _ => ⟨1, printed, "", files⟩
  | .ok (files, path) =>
      let files := files.write path Config.template
      match shownText ("[green]✓[/green] Generated configuration file: " ++ output) with
      | .ok shown => ⟨0, printed, shown, files⟩
      | .error _ => ⟨1, printed, "", files⟩

/-- Writes a new configuration file; an existing one only if the user agrees. -/
def runInit (output : String) (files : Files) (input : List String) : Result :=
  match files.find output with
  | .tooLong => ⟨1, "", "", files⟩
  | .free _ | .missing | .blocked => writeTemplate output "" files
  | .file _ _ | .directory _ =>
      let question :=
        Terminal.withoutSequences (output ++ " already exists. Overwrite? [y/N]: ")
      let dialogue := confirm question input
      match dialogue.answer with
      | some true => writeTemplate output dialogue.output files
      | some false => ⟨1, dialogue.output, "Cancelled.\nAborted.\n", files⟩
      | none => ⟨1, dialogue.output, "Aborted.\n", files⟩

/-- Runs the command that the words of a command line give. -/
def run (words : List String) (files : Files) (input : List String) : Result :=
  match Command.ofWords? words with
  | some (.convert request) => runConvert request files
  | some (.init output) => runInit output files input
  | some .help => ⟨0, "", "", files⟩
  | none => ⟨2, "", "", files⟩

end ClassLift.CommandLine

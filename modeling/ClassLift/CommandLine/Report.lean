import ClassLift.Terminal.Frame
import ClassLift.Terminal.Markup
import ClassLift.Text.Pieces
import ClassLift.Trace

/-!
# Reports

What a run tells the user is one text, with log records among it. The console
shows texts with their styles left out, broken into lines of its own width.
-/

namespace ClassLift.CommandLine

/-- The text of the lines, each with a line feed. -/
def textOfLines (lines : List (List Char)) : String :=
  String.join (lines.map fun line => String.ofList (line ++ ['\n']))

/-- A text as the console shows it. -/
def shownText (text : String) : Except Terminal.MarkupFault String := do
  let shown ← Terminal.render text.toList
  return textOfLines (Terminal.wrap .fold .loose Terminal.consoleWidth shown)

/-- The line for a log record. -/
def recordText (record : LogRecord) : String :=
  record.source.name ++ ": " ++ record.message ++ "\n"

/-- After these words the details of a fault follow, in no fixed form. -/
def detailHeadings : List String :=
  ["Error:", "Configuration Error: Invalid YAML in configuration file:",
   "Configuration Error: Configuration validation failed:",
   "Configuration Error: Invalid conversion options:"]

/-- The words at the start of a line after which only details follow. -/
def detailHeading? (line : List Char) : Option String :=
  detailHeadings.find? fun heading => heading.toList.isPrefixOf line

/-- Lines up to the first one that leads to details, of which only its heading is kept. -/
def beforeDetails : List (List Char) → List String
  | [] => []
  | line :: rest =>
      match detailHeading? line with
      | some heading => [heading]
      | none => String.ofList line :: beforeDetails rest

/-- The lines of a report, without blanks at their ends and without details. -/
def reportLines (report : String) : List String :=
  beforeDetails ((Text.rows report.toList).map Terminal.trimmedRight)

end ClassLift.CommandLine

import ClassLift.CommandLine.Run

/-!
# The program

Collects the files that a command can touch, runs the command on them, and
carries out what its result says.
-/

namespace ClassLift.CommandLine

/-- The texts of the paths that a command names. -/
def Command.paths : Command → List String
  | .convert request => request.source :: request.config.toList ++ request.output.toList
  | .init output => [output]
  | .help => []

/-- The places that the segments of a path lead through. -/
def wayTo (text : String) : List Path :=
  let segments := Path.segments text
  (List.range segments.length).map fun count =>
    (segments.take (count + 1)).foldl Path.enter (Path.origin text)

/-- Adds what is found at a path to the known files. -/
def addFound (files : Files) (path : Path) : IO Files := do
  try
    let content ← IO.FS.readFile path.text
    return files.write path content
  catch _ =>
    try
      let found ← IO.FS.realPath path.text
      if ← found.isDir then return { files with directories := path :: files.directories }
      return files
    catch _ => return files

/-- The lines of the standard input; they are read only when a question can be asked. -/
def inputLines (words : List String) (files : Files) : IO (List String) := do
  match Command.ofWords? words with
  | some (.init output) =>
      match files.find output with
      | .file _ _ | .directory _ =>
          let text ← (← IO.getStdin).readToEnd
          return Text.inputLines text
      | _ => return []
  | _ => return []

/-- Writes a file below directories that are made where they are missing. -/
def writeFound (path : Path) (content : String) : IO Unit := do
  let directory := Path.text path.dropLast
  if directory != "" then IO.FS.createDirAll directory
  IO.FS.writeFile path.text content

end ClassLift.CommandLine

open ClassLift in
def main (words : List String) : IO UInt32 := do
  let paths := ((CommandLine.Command.ofWords? words).map (·.paths)).getD []
  let files ← (paths.flatMap CommandLine.wayTo).foldlM CommandLine.addFound ⟨[], []⟩
  let input ← CommandLine.inputLines words files
  let result := CommandLine.run words files input
  for (path, content) in files.changes result.files do
    CommandLine.writeFound path content
  IO.print result.output
  IO.eprint result.report
  return result.exitCode.toUInt32

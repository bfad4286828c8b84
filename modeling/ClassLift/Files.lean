import ClassLift.Json.Writer
import ClassLift.Text.Pieces

/-!
# Files

A directory of text files, as far as a run of the program reads and writes it. A
path is the list of its segments. Directories are those that hold a file and
those known to be there without one.

The segments of a path are followed one by one: each of them but the last must
lead to a directory that is there, also where the next one leads back out of it.
-/

namespace ClassLift

/-- The segments of a path; an absolute one starts with the segment of the root directory. -/
abbrev Path := List String

namespace Path

def rootSegment : String :=
  "/"

def isAbsolute (text : String) : Bool :=
  text.toList.head? == some '/'

/-- The segments that a text names, without those that lead nowhere. -/
def segments (text : String) : List String :=
  (Text.pieces '/' text).filter fun segment => segment != "" && segment != "."

/-- What the text of a path starts with; two slashes are kept, more of them are one. -/
def start (text : String) : String :=
  match (text.toList.takeWhile (· == '/')).length with
  | 0 => ""
  | 2 => "//"
  | _ => rootSegment

/-- A path as it is shown. -/
def shown (text : String) : String :=
  let joined := start text ++ Text.joined '/' (segments text)
  if joined = "" then "." else joined

/-- Enters a directory, or leaves one where two dots say so. Above the root there is none. -/
def enter (reached : Path) (segment : String) : Path :=
  if segment ≠ ".." then reached ++ [segment]
  else
    match reached.getLast? with
    | none => [segment]
    | some last =>
        if last = ".." then reached ++ [segment]
        else if last = rootSegment then reached
        else reached.dropLast

/-- Where the segments of a text start. -/
def origin (text : String) : Path :=
  if isAbsolute text then [rootSegment] else []

/-- The path that a text names, if all directories on its way are there. -/
def ofText (text : String) : Path :=
  (segments text).foldl enter (origin text)

/-- The text of a path. -/
def text (path : Path) : String :=
  if path.head? = some rootSegment then rootSegment ++ Text.joined '/' path.tail
  else Text.joined '/' path

/-- Whether a path leads upwards only; what it leads to is a directory. -/
def isAbove (path : Path) : Bool :=
  path == [rootSegment] || path.all (· == "..")

end Path

structure Files where
  files : List (Path × String)
  directories : List Path
deriving DecidableEq

/-- What is found when the segments of a path are followed. -/
inductive Found where
  | file (path : Path) (content : String)
  | directory (path : Path)
  /-- There is nothing yet, in a directory that is there. -/
  | free (path : Path)
  /-- A directory on the way is not there. -/
  | missing
  /-- A file is on the way where a directory should be. -/
  | blocked
  /-- A segment is too long to be a name, or all of them to be a path. -/
  | tooLong

/-- Why a file cannot be written. -/
inductive PathFault where
  | isDirectory
  | fileExists
  | notADirectory
  | notFound
  | tooLong
  | nullCharacter
deriving DecidableEq

/-- A fault and the text of the path at which it was met. -/
structure PathFailure where
  fault : PathFault
  path : String
deriving DecidableEq

namespace Files

/-- The content of a file. -/
def read? (files : Files) (path : Path) : Option String :=
  files.files.lookup path

def isDirectory (files : Files) (path : Path) : Bool :=
  path.isAbove || files.directories.contains path
    || files.files.any fun (other, _) => path.isPrefixOf other && path != other

/-- Names are limited to 255 bytes. -/
def isTooLong (segment : String) : Bool :=
  255 < segment.utf8ByteSize

/-- The texts of paths are limited to 4095 bytes. -/
def isPathTooLong (text : String) : Bool :=
  4095 < text.utf8ByteSize

/-- Follows segments from a directory that is there. -/
def follow (files : Files) : Path → List String → Found
  | reached, [] => .directory reached
  | reached, segment :: rest =>
      let next := reached.enter segment
      if isTooLong segment then .tooLong
      else if files.isDirectory next then files.follow next rest
      else
        match files.read? next, rest with
        | some content, [] => .file next content
        | some _, _ :: _ => .blocked
        | none, [] => .free next
        | none, _ :: _ => .missing

def hasNull (text : String) : Bool :=
  text.toList.contains '\x00'

/-- What a text leads to; one with a null character leads nowhere. -/
def find (files : Files) (text : String) : Found :=
  if hasNull text then .missing
  else if isPathTooLong (Path.shown text) then .tooLong
  else files.follow (Path.origin text) (Path.segments text)

/-- Sets the content of a file. -/
def setContent (path : Path) (content : String) : List (Path × String) → List (Path × String)
  | [] => [(path, content)]
  | (otherPath, other) :: rest =>
      if otherPath = path then (path, content) :: rest
      else (otherPath, other) :: setContent path content rest

def write (files : Files) (path : Path) (content : String) : Files :=
  { files with files := setContent path content files.files }

/-- The files that are new or have another content, in the order of their paths. -/
def changes (before after : Files) : List (Path × String) :=
  (after.files.filter fun (path, content) => before.read? path != some content).mergeSort
    fun (left, _) (right, _) => decide (left.text ≤ right.text)

/-- The text of a path below the place where it starts. -/
def pathText (start : String) (segments : List String) : String :=
  let joined := start ++ Text.joined '/' segments
  if joined = "" then "." else joined

/-- Makes one directory; one that is there already is as good. -/
def makeDirectory (files : Files) (start : String) (origin : Path) (segments : List String) :
    Except PathFailure Files :=
  let failure (fault : PathFault) : Except PathFailure Files :=
    .error ⟨fault, pathText start segments⟩
  let text := pathText start segments
  if hasNull text then failure .nullCharacter
  else if isPathTooLong text then failure .tooLong
  else
    match files.follow origin segments with
    | .directory _ => .ok files
    | .free path => .ok { files with directories := path :: files.directories }
    | .file _ _ => failure .fileExists
    | .blocked => failure .notADirectory
    | .missing => failure .notFound
    | .tooLong => failure .tooLong

/--
Makes a directory, given by its segments from the last to the first, and those
above it where one is missing.
-/
def makeDirectories (start : String) (origin : Path) :
    List String → Files → Except PathFailure Files
  | [], files => files.makeDirectory start origin []
  | segment :: above, files =>
      let segments := (segment :: above).reverse
      match files.makeDirectory start origin segments with
      | .error ⟨.notFound, _⟩ => do
          let files ← makeDirectories start origin above files
          files.makeDirectory start origin segments
      | result => result

/-- The place where a file can be written, once the directories above it are made. -/
def place (files : Files) (text : String) : Except PathFailure (Files × Path) := do
  let failure {α : Type} (fault : PathFault) : Except PathFailure α :=
    .error ⟨fault, Path.shown text⟩
  let above := (Path.segments text).reverse.tail
  let files ← makeDirectories (Path.start text) (Path.origin text) above files
  if hasNull text then failure .nullCharacter
  match files.find text with
  | .file path _ | .free path => return (files, path)
  | .directory _ => failure .isDirectory
  | .missing => failure .notFound
  | .blocked => failure .notADirectory
  | .tooLong => failure .tooLong

end Files

/-- Why a tree was not saved: there is no place for it, or it has no text. -/
inductive SaveFailure where
  | path (failure : PathFailure)
  | noText
deriving DecidableEq

/-- The files after an attempt to save a tree, and what went wrong if something did. -/
structure SavedTree where
  files : Files
  failure : Option SaveFailure

namespace Files

/--
Saves a tree. The file is emptied before the text of the tree is known, so a
tree that cannot be written leaves an empty file.
-/
def saveTree (files : Files) (path : String) (tree : Json) (indent : Bool) : SavedTree :=
  match files.place path with
  | .error failure => ⟨files, some (.path failure)⟩
  | .ok (files, place) =>
      let emptied := files.write place ""
      match tree.toText? indent with
      | some text => ⟨emptied.write place text, none⟩
      | none => ⟨emptied, some .noText⟩

/-- Loads the tree in a file. -/
def loadTree? (files : Files) (path : String) : Option Json := do
  match files.find path with
  | .file _ content => Json.ofText? content
  | _ => none

end Files

end ClassLift

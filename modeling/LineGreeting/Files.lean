import LineGreeting.Fault
import LineGreeting.Text.Utf8

/-! # Files and the working directory

A program reads one file, by a path that starts at its working directory or at
the root. Each part of a path leads from one directory to the next; only the
last may lead to a file. What lies at a path may be out of reach: the user may
lack the right, the disk may be broken, or a link may lead back to itself.
-/

namespace LineGreeting

/-- What becomes of reading the text of a file. -/
abbrev ReadText := String → Except Fault String

/-- What becomes of reading the bytes of a file. -/
abbrev ReadBytes := String → Except Fault Bytes

/-- The text of a file, if its bytes can be read and are those of a text. -/
def ReadBytes.text (readBytes : ReadBytes) : ReadText := fun path => do
  let bytes ← readBytes path
  match Text.ofUtf8? bytes with
  | some text => return text
  | none => .error .notUtf8

/-- Files and directories, by their paths from the root. -/
structure Files where
  files : List (List String × Bytes) := []
  directories : List (List String) := []
  /-- What is out of reach, and why. -/
  barred : List (List String × SystemFault) := []
  /-- The working directory. -/
  home : List String := []
deriving Repr

namespace Files

/-- What a path leads to. -/
inductive Place where
  | directory (path : List String)
  | file (bytes : Bytes)
deriving Repr

/-- How many bytes a part of a path may have. -/
def maxNameLength : Nat := 255

/-- How many bytes a path may have. -/
def maxPathLength : Nat := 4095

/-- Whether a path is that of a directory, be it only because something lies in it. -/
def isDirectory (files : Files) (path : List String) : Bool :=
  (files.home :: files.directories ++ files.files.map (·.1.dropLast)).any fun known =>
    path.isPrefixOf known

/-- What lies under a name in a directory. -/
def enter (files : Files) (directory : List String) (name : String) :
    Except SystemFault Place :=
  let path := directory ++ [name]
  if maxNameLength < name.utf8ByteSize then .error .nameTooLong
  else match files.barred.lookup path with
    | some cause => .error cause
    | none =>
      if files.isDirectory path then .ok (.directory path)
      else match files.files.lookup path with
        | some bytes => .ok (.file bytes)
        | none => .error .noSuchFile

/-- Follows the parts of a path from some place. An empty part and a point stay
where they are, two points lead back, but not behind the root. -/
def follow (files : Files) : Place → List String → Except SystemFault Place
  | place, [] => .ok place
  | .file _, _ :: _ => .error .notADirectory
  | .directory path, name :: rest =>
    if name = "" ∨ name = "." then files.follow (.directory path) rest
    else if name = ".." then files.follow (.directory path.dropLast) rest
    else do files.follow (← files.enter path name) rest

/-- The parts of a path. -/
def parts (path : String) : List String :=
  path.splitOn "/"

/-- What a path leads to. A path that begins with a slash starts at the root. -/
def find (files : Files) (path : String) : Except SystemFault Place :=
  if path = "" then .error .noSuchFile
  else if maxPathLength < path.utf8ByteSize then .error .nameTooLong
  else
    let start := if path.startsWith "/" then [] else files.home
    files.follow (.directory start) (parts path)

/-- The bytes of a file. -/
def readBytes (files : Files) : ReadBytes := fun path =>
  match files.find path with
  | .error cause => .error (.system cause)
  | .ok (.directory _) => .error (.system .isADirectory)
  | .ok (.file bytes) => .ok bytes

/-- The text of a file. -/
def readText (files : Files) : ReadText :=
  files.readBytes.text

end Files

end LineGreeting

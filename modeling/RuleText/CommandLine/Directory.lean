import RuleText.CommandLine.Run

/-!
# Runs in a directory that is a value

A directory holds files by their paths, together with the bytes on standard input and those that came on
standard output. It is a host for runs, so a run in it is a function from directories to directories. A
directory inside is there as long as a file is in it.

Paths may lead outside. There, little is known: directories lie above the working directory, and the root
has one with devices in it. No other file is found outside, and one that is created there is out of sight.

Main definitions:

- `Directory`, `Directory.resolve`: files and how paths name them;
- `Directory.host`: a directory as a host;
- `Directory.run`: a run as a function.
-/

namespace RuleText

/-- A working directory, and the standard streams of the command that runs there. -/
structure Directory where
  /-- The files by their paths, without dots and without a slash at the end. -/
  files : Table Bytes := {}
  input : Bytes := []
  output : Bytes := []
deriving Repr, DecidableEq

/-- What a run in a directory has open. -/
inductive DirectoryHandle where
  | input
  | output
  | file (path : String)
  | directory
  /-- Takes everything and gives nothing. -/
  | nothing
  /-- Takes nothing. -/
  | full
deriving Repr, DecidableEq

namespace Directory

/-! ### Paths -/

/-- Reasons for which the system refuses a path. -/
inductive PathFault where
  | missing
  | notDirectory
  | isDirectory
  | tooLong
deriving Repr, DecidableEq

/-- A reason as the system words it. -/
def PathFault.message : PathFault → String
  | missing => "No such file or directory (os error 2)"
  | notDirectory => "Not a directory (os error 20)"
  | isDirectory => "Is a directory (os error 21)"
  | tooLong => "File name too long (os error 36)"

/-- The longest name in a path, in bytes. -/
def maxName : Nat := 255

/-- The longest path, in bytes. -/
def maxPath : Nat := 4095

/-- Where a path leads to. -/
inductive Place where
  /-- In the working directory, by the names from there on. -/
  | inside (path : List String)
  /-- A directory above the working directory. -/
  | above
  /-- By the names from the root on. -/
  | rooted (path : List String)
  /-- A name in a directory above the working directory. -/
  | lost
deriving Repr, DecidableEq

/-- The text of a path. -/
def pathText (path : List String) : String :=
  "/".intercalate path

/-- The device of a path from the root on. -/
def device? : List String → Option DirectoryHandle
  | ["dev", "stdin"] => some .input
  | ["dev", "stdout"] => some .output
  | ["dev", "null"] => some .nothing
  | ["dev", "full"] => some .full
  | _ => none

/-- Whether a place is a directory. -/
def isDirectory (d : Directory) : Place → Bool
  | .inside path =>
    path.isEmpty || d.files.entries.any fun (name, _) => (pathText path ++ "/").isPrefixOf name
  | .above => true
  | .rooted path => path.isEmpty || path == ["dev"] || path == ["tmp"]
  | .lost => false

/-- The handle of the file or device at a place. -/
def file? (d : Directory) : Place → Option DirectoryHandle
  | .inside path =>
    if d.files.contains (pathText path) then some (.file (pathText path)) else none
  | .rooted path => device? path
  | .above | .lost => none

/-- The directory around a place. -/
def Place.outer : Place → Place
  | inside path => if path.isEmpty then above else inside path.dropLast
  | rooted path => rooted path.dropLast
  | above | lost => above

/-- A name in the directory at a place. -/
def Place.entry (name : String) : Place → Place
  | inside path => inside (path ++ [name])
  | rooted path => rooted (path ++ [name])
  | above | lost => lost

/-- Follows the parts of a path from where the parts before have led to. -/
def follow (d : Directory) (place : Place) : List String → Except PathFault Place
  | [] => .ok place
  | part :: rest =>
    if d.isDirectory place then
      -- an empty part comes from a slash at the end or from two in a row
      if part.isEmpty || part = "." then follow d place rest
      else if part = ".." then follow d place.outer rest
      else if maxName < part.utf8ByteSize then .error .tooLong
      else follow d (place.entry part) rest
    else if (d.file? place).isSome then .error .notDirectory
    else .error .missing

/-- Where a path leads to; all but the end of it has to be there. -/
def resolve (d : Directory) (path : String) : Except PathFault Place :=
  if maxPath < path.utf8ByteSize then .error .tooLong
  else match path.toList.splitOn '/' with
    | [[]] => .error .missing
    | [] :: parts => follow d (.rooted []) (parts.map String.ofList)
    | parts => follow d (.inside []) (parts.map String.ofList)

/-! ### Files -/

/-- The handle of an existing file or directory. -/
def openFile (d : Directory) (path : String) : Except PathFault DirectoryHandle := do
  let place ← d.resolve path
  if d.isDirectory place then .ok .directory
  else match d.file? place with
    | some handle => .ok handle
    | none => .error .missing

/-- The path of the directory around what a path with a slash at its end names. -/
def outerPath (path : String) : String :=
  let named := (path.toList.reverse.dropWhile (· == '/')).dropWhile (· != '/')
  if named.isEmpty && path.toList.head? != some '/' then "." else String.ofList named.reverse

/-- The handle of a file, and the directory in which it is empty. A slash at the end of a path asks for a
directory, whether there is one or not. -/
def createFile (d : Directory) (path : String) : Except PathFault (DirectoryHandle × Directory) := do
  if path.toList.getLast? = some '/' then
    let _ ← if maxPath < path.utf8ByteSize then .error .tooLong else d.resolve (outerPath path ++ "/")
    .error .isDirectory
  else
    let place ← d.resolve path
    if d.isDirectory place then .error .isDirectory
    else match place with
      | .inside names =>
        .ok (.file (pathText names), { d with files := d.files.insert (pathText names) [] })
      | place => .ok ((d.file? place).getD .nothing, d)

/-- The bytes behind a handle. A directory can be opened but not read. -/
def readAll (d : Directory) : DirectoryHandle → Source
  | .input => { bytes := d.input }
  | .file path => { bytes := (d.files.get? path).getD [] }
  | .directory => { bytes := [], failure := some PathFault.isDirectory.message }
  | .nothing | .full => { bytes := [] }
  | .output => { bytes := [], failure := some "Bad file descriptor (os error 9)" }

/-- Writes bytes to a handle. -/
def write (d : Directory) (handle : DirectoryHandle) (bytes : Bytes) :
    Except (Nat × String) Unit × Directory :=
  match handle with
  | .input => (.error (0, "Bad file descriptor (os error 9)"), d)
  | .directory => (.error (0, PathFault.isDirectory.message), d)
  | .full => (if bytes.isEmpty then .ok () else .error (0, "No space left on device (os error 28)"), d)
  | .nothing => (.ok (), d)
  | .output => (.ok (), { d with output := d.output ++ bytes })
  | .file path =>
    (.ok (), { d with files := d.files.insert path ((d.files.get? path).getD [] ++ bytes) })

/-- A directory as the host of a run. -/
def host : Host (StateM Directory) DirectoryHandle where
  standardInput := .input
  standardOutput := .output
  openFile path := fun d => ((d.openFile path).mapError PathFault.message, d)
  createFile path := fun d =>
    match d.createFile path with
    | .ok (handle, d) => (.ok handle, d)
    | .error fault => (.error fault.message, d)
  readAll handle := fun d => (d.readAll handle, d)
  write handle bytes := fun d => d.write handle bytes

/-- Runs in a directory. -/
def run (d : Directory) (options : Options) : Except RunError Unit × Directory :=
  RuleText.run host options d

/-- The content of a file. -/
def content? (d : Directory) (path : String) : Option Bytes :=
  match d.resolve path with
  | .ok (.inside names) => d.files.get? (pathText names)
  | _ => none

end Directory

end RuleText

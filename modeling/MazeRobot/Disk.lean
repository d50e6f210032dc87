/-!
# Disks

A disk holds texts in files and files in directories. It is a list of places
with what stands there; the top is a directory that is always there. A path is
walked from the top, name by name, and every name but the last has to be that
of a directory.
-/

namespace MazeRobot

/-- What stands at a place. -/
inductive Disk.Entry where
  /-- A file with its text. -/
  | file (text : String)
  /-- A directory. -/
  | directory
  deriving DecidableEq, Repr

/-- Files and directories. -/
structure Disk where
  /-- What stands where. A place is the list of names that lead to it. -/
  entries : List (List String × Disk.Entry)
  deriving DecidableEq, Repr

namespace Disk

/-- Why a file or directory could not be used. -/
inductive Fault where
  /-- Nothing is there. -/
  | missing
  /-- Something is there already. -/
  | taken
  /-- A name on the way is that of a file. -/
  | notDirectory
  /-- A file was wanted. -/
  | isDirectory
  /-- A name, or the whole path, is longer than a disk can take. -/
  | tooLong
  /-- No path has that character in it. -/
  | unnameable
  /-- Something else went wrong. -/
  | other (text : String)
  deriving DecidableEq, Repr

/-- The wording of a fault. -/
def Fault.message : Fault → String
  | missing => "No such file or directory (os error 2)"
  | taken => "File exists (os error 17)"
  | notDirectory => "Not a directory (os error 20)"
  | isDirectory => "Is a directory (os error 21)"
  | tooLong => "File name too long (os error 36)"
  | unnameable => "file name contained an unexpected NUL byte"
  | other text => text

/-- A disk with nothing but its top. -/
def empty : Disk := ⟨[]⟩

/-- What stands at a place. -/
def entry? (d : Disk) (place : List String) : Option Entry :=
  if place = [] then some .directory else d.entries.lookup place

/-- The disk with something put at a place. -/
def put (d : Disk) (place : List String) (entry : Entry) : Disk :=
  if (d.entries.lookup place).isSome then
    ⟨d.entries.map fun e => if e.1 = place then (place, entry) else e⟩
  else ⟨d.entries ++ [(place, entry)]⟩

/-- How many bytes a name may have. -/
def maxName : Nat := 255

/-- How many bytes a path may have. -/
def maxPath : Nat := 4095

/-- The place one step on from a place, which has to be a directory. A single
dot stays there and two dots go back, at the top to the top. -/
def enter (d : Disk) (place : List String) (name : String) : Except Fault (List String) :=
  match d.entry? place with
  | none => .error .missing
  | some (.file _) => .error .notDirectory
  | some .directory =>
    if name = "." then .ok place
    else if name = ".." then .ok place.dropLast
    else if maxName < name.utf8ByteSize then .error .tooLong
    else .ok (place ++ [name])

/-- The place that names lead to. -/
def walk (d : Disk) : List String → List String → Except Fault (List String)
  | place, [] => .ok place
  | place, name :: rest =>
    match d.enter place name with
    | .error f => .error f
    | .ok place => d.walk place rest

/-- The names on a path. Doubled slashes count once, and a slash at the end
asks for a directory. -/
def names (path : String) : List String :=
  let parts := (path.toList.splitOn '/').map String.ofList
  let plain := parts.filter (· ≠ "")
  if parts.getLast? = some "" ∧ plain ≠ [] then plain ++ ["."] else plain

/-- What is wrong with a path, whatever the disk holds. -/
def unfit? (path : String) : Option Fault :=
  if '\x00' ∈ path.toList then some .unnameable
  else if maxPath < path.utf8ByteSize then some .tooLong
  else none

/-- The place that a path leads to. No path leads nowhere. -/
def resolve (d : Disk) (path : String) : Except Fault (List String) :=
  match unfit? path with
  | some f => .error f
  | none => if path = "" then .error .missing else d.walk [] (names path)

/-- Reads a file. -/
def read (d : Disk) (path : String) : Except Fault String :=
  match d.resolve path with
  | .error f => .error f
  | .ok place =>
    match d.entry? place with
    | none => .error .missing
    | some .directory => .error .isDirectory
    | some (.file text) => .ok text

/-- Writes a file, in the place of what it held before. Its directory has to
be there. -/
def write (d : Disk) (path text : String) : Except Fault Disk :=
  match d.resolve path with
  | .error f => .error f
  | .ok place =>
    match d.entry? place with
    | some .directory => .error .isDirectory
    | _ => .ok (d.put place (.file text))

/-- Makes the directories on the way along names, and gives the disk as far as
it came. -/
def makeAlong : List String → List String → Disk → Disk × Except Fault Unit
  | _, [], d => (d, .ok ())
  | place, name :: rest, d =>
    match d.enter place name with
    | .error f => (d, .error f)
    | .ok next =>
      match d.entry? next with
      | none => makeAlong next rest (d.put next .directory)
      | some .directory => makeAlong next rest d
      | some (.file _) =>
        (d, .error (if rest.isEmpty then .taken else .notDirectory))

/-- Makes a directory and all directories on the way to it, unless they are
there already. -/
def makeDirectories (d : Disk) (path : String) : Disk × Except Fault Unit :=
  match unfit? path with
  | some f => (d, .error f)
  | none => makeAlong [] (names path) d

/-- The texts of all files with their places. -/
def files (d : Disk) : List (List String × String) :=
  d.entries.filterMap fun e =>
    match e.2 with
    | .file text => some (e.1, text)
    | .directory => none

/-- A path and a name behind it. -/
def join (path name : String) : String :=
  if path = "" ∨ path.toList.getLast? = some '/' then path ++ name else path ++ "/" ++ name

end Disk

end MazeRobot

import MazeRobot.Json.Decode
import MazeRobot.Store

/-!
# A store on a disk

Every team has a directory and every puzzle a file in it. Names are made of
letters, digits, hyphens and underscores, so no name can lead to another
place. A file that is not there, or cannot be, means that nothing was saved.
-/

namespace MazeRobot

namespace SavedCode

/-- A saved script as an object. -/
def toJson (s : SavedCode) : Json :=
  .object [("code", .string s.code), ("revision", .number s.revision.toNat)]

/-- A saved script under construction. -/
structure Draft where
  /-- The script. -/
  code : Option String := none
  /-- Its revision. -/
  revision : Option UInt64 := none

/-- Reads a saved script. -/
def decode : Decoder SavedCode :=
  Decoder.record (σ := Draft)
    [Decoder.field "code" Draft.code (fun d v => { d with code := some v }) Decoder.string,
     Decoder.field "revision" Draft.revision (fun d v => { d with revision := some v })
       Decoder.uint64]
    {} fun d => do return ⟨← d.code, ← d.revision⟩

end SavedCode

namespace Store

/-- Whether a character may stand in a name. -/
def isKeyChar (c : Char) : Bool :=
  ('0' ≤ c && c ≤ '9') || ('A' ≤ c && c ≤ 'Z') || ('a' ≤ c && c ≤ 'z') || c == '-' || c == '_'

/-- Whether a text is a name of a team or a puzzle. -/
def isKey (name : String) : Bool :=
  name ≠ "" && name.toList.all isKeyChar

/-- The directory of a team. -/
def directory (root team : String) : String :=
  Disk.join root team

/-- The file of a puzzle for a team. -/
def file (root puzzle team : String) : String :=
  Disk.join (directory root team) (puzzle ++ ".json")

/-- The file of a puzzle for a team, if both names are in order. The team is
looked at first. -/
def fileOf (root puzzle team : String) : Except Fault String :=
  if !isKey team then .error (.badKey team)
  else if !isKey puzzle then .error (.badKey puzzle)
  else .ok (file root puzzle team)

/-- The saved script that a file holds. -/
def ofFile (path : String) : Except Disk.Fault String → Except Fault (Option SavedCode)
  | .error .missing | .error .notDirectory | .error .tooLong | .error .unnameable => .ok none
  | .error fault => .error (.unreadable path fault)
  | .ok text =>
    match Decoder.text SavedCode.decode text with
    | .error fault => .error (.malformed path fault)
    | .ok saved => .ok (some saved)

/-- Loads a script. -/
def loadFrom (root : String) (disk : Disk) (puzzle team : String) :
    Except Fault (Option SavedCode) :=
  match fileOf root puzzle team with
  | .error fault => .error fault
  | .ok path => ofFile path (disk.read path)

/-- Saves a script after what was there. -/
def saveTo (root : String) (disk : Disk) (puzzle team code : String) :
    Disk × Except Fault SavedCode :=
  match loadFrom root disk puzzle team with
  | .error fault => (disk, .error fault)
  | .ok before =>
    let saved : SavedCode := ⟨code, nextRevision before⟩
    match disk.makeDirectories (directory root team) with
    | (disk, .error fault) => (disk, .error (.noDirectory (directory root team) fault))
    | (disk, .ok ()) =>
      match disk.write (file root puzzle team) saved.toJson.pretty with
      | .error fault => (disk, .error (.unwritable (file root puzzle team) fault))
      | .ok disk => (disk, .ok saved)

/-- The store on a disk, below a directory. -/
def onDisk (root : String) : Store Disk where
  load := loadFrom root
  save := saveTo root

end Store

end MazeRobot

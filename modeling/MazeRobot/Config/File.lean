import MazeRobot.Config.Json
import MazeRobot.Disk
import MazeRobot.Explanation

/-!
# Configuration files

A configuration is read from what a file holds. Whoever can do without the
file takes the defaults in its place.
-/

namespace MazeRobot.Config

/-- Why a file holds no configuration. -/
inductive FileFault where
  /-- It cannot be read. -/
  | unreadable (path : String) (fault : Disk.Fault)
  /-- It holds no JSON of a configuration. -/
  | malformed (path : String) (fault : Fault)
  deriving DecidableEq, Repr

/-- What is told about the fault of a file. -/
def FileFault.explanation : FileFault → Explanation
  | unreadable path fault => ⟨"Failed to read config file " ++ path, [.plain fault.message]⟩
  | malformed path fault => ⟨"Failed to parse config file " ++ path, [.json fault]⟩

/-- Reads a configuration from what a file holds. -/
def ofFile (path : String) (content : Except Disk.Fault String) : Except FileFault Config :=
  match content with
  | .error fault => .error (.unreadable path fault)
  | .ok text =>
    match Decoder.text decode text with
    | .error fault => .error (.malformed path fault)
    | .ok config => .ok config

/-- The configuration of a file, or the default one. -/
def ofFileOrDefault (path : String) (content : Except Disk.Fault String) : Config :=
  match ofFile path content with
  | .error _ => {}
  | .ok config => config

end MazeRobot.Config

import MazeRobot.Program

/-!
# The command line

Carries the program out with real files, on a real terminal and in real time.
-/

namespace MazeRobot.CommandLine

/-- Why a real file could not be used. -/
def diskFault : IO.Error → Disk.Fault
  | .noFileOrDirectory .. => .missing
  | .alreadyExists .. => .taken
  | .inappropriateType _ 20 _ => .notDirectory
  | .inappropriateType _ 21 _ => .isDirectory
  | .illegalOperation 21 _ => .isDirectory
  | e => .other (toString e)

/-- Reads a real file. -/
def readFile (path : String) : IO (Except Disk.Fault String) := do
  try
    let bytes ← IO.FS.readBinFile path
    match String.fromUTF8? bytes with
    | some text => return .ok text
    | none => return .error (.other "stream did not contain valid UTF-8")
  catch e => return .error (diskFault e)

/-- Carries a reading out with real files. -/
def carryOut {α : Type} : FileReading α → IO α
  | .done a => return a
  | .read path next => do
    let content ← readFile path
    carryOut (next content)

/-- Shows pieces of text, each after its pause. -/
def showPieces : List (Span × String) → IO Unit
  | [] => return
  | (pause, text) :: rest => do
    if !pause.isZero then IO.sleep (UInt32.ofNat pause.millis)
    IO.print text
    (← IO.getStdout).flush
    showPieces rest

/-- The lines of an explanation on the terminal. -/
def explain (e : Explanation) : String :=
  String.intercalate "\n" (e.message :: e.causes.map fun cause => "  caused by: " ++ cause.text)

/-- Runs the program with the arguments of a command line. -/
def run (arguments : List String) : IO UInt32 := do
  match Options.ofArguments ("" :: arguments) with
  | .error fault =>
    IO.eprintln ("[cli] " ++ fault.explanation.message)
    return 2
  | .ok options =>
    let showing ← carryOut (Program.run options)
    showPieces showing.pieces
    match showing.fault with
    | none => return 0
    | some fault =>
      IO.eprintln ("Application error: " ++ explain fault.explanation)
      return 1

end MazeRobot.CommandLine

/-- The program. -/
def main (arguments : List String) : IO UInt32 :=
  MazeRobot.CommandLine.run arguments

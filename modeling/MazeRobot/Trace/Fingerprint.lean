import MazeRobot.Blake3
import MazeRobot.Trace.Json

/-!
# Fingerprints of traces

The fingerprint of a trace is the digest of its lines: each record in compact
JSON, ended by a line feed. The lines are a definition of their own, apart
from the digest, because they tell traces apart and the digest need not.
-/

namespace MazeRobot

namespace Record

/-- The line of a record: its compact JSON and a line feed. -/
def line (r : Record) : List Char :=
  Json.write .compact 1 r.toJson ++ ['\n']

end Record

namespace Trace

/-- The lines of a trace, one after the other. -/
def lines (t : Trace) : List Char :=
  t.toList.flatMap Record.line

/-- The bytes that are digested. -/
def digestInput (t : Trace) : ByteArray :=
  (String.ofList t.lines).toUTF8

/-- The fingerprint of a trace, 64 hexadecimal digits. -/
def fingerprint (t : Trace) : String :=
  Blake3.hex t.digestInput

end Trace

end MazeRobot

import MazeRobot.Json.Decode
import MazeRobot.Trace

/-!
# Traces as JSON

A record is an object of its kind, position, orientation and message; a trace
is the array of its records.
-/

namespace MazeRobot

namespace Coord

/-- A coordinate as an object. -/
def toJson (c : Coord) : Json :=
  .object [("x", .number c.x.toInt), ("y", .number c.y.toInt)]

/-- A coordinate under construction. -/
structure Draft where
  /-- The column. -/
  x : Option Int32 := none
  /-- The row. -/
  y : Option Int32 := none

/-- Reads a coordinate. -/
def decode : Decoder Coord :=
  Decoder.record (σ := Draft)
    [Decoder.field "x" Draft.x (fun d v => { d with x := some v }) Decoder.int32,
     Decoder.field "y" Draft.y (fun d v => { d with y := some v }) Decoder.int32]
    {} fun d => do return ⟨← d.x, ← d.y⟩

end Coord

namespace Record

/-- A record as an object. -/
def toJson (r : Record) : Json :=
  .object [
    ("kind", .string r.kind.tag),
    ("position", r.position.toJson),
    ("orientation", .string r.orientation.letter),
    ("message", .string r.message)]

/-- A record under construction. -/
structure Draft where
  /-- What the record is about. -/
  kind : Option ActionKind := none
  /-- Where the robot stands. -/
  position : Option Coord := none
  /-- Which way it faces. -/
  orientation : Option Heading := none
  /-- The line for the console. -/
  message : Option String := none

/-- Reads a record. -/
def decode : Decoder Record :=
  Decoder.record (σ := Draft)
    [Decoder.field "kind" Draft.kind (fun d v => { d with kind := some v })
       (Decoder.word ActionKind.ofTag?),
     Decoder.field "position" Draft.position (fun d v => { d with position := some v })
       Coord.decode,
     Decoder.field "orientation" Draft.orientation
       (fun d v => { d with orientation := some v }) (Decoder.word Heading.ofLetter?),
     Decoder.field "message" Draft.message (fun d v => { d with message := some v })
       Decoder.string]
    {} fun d => do return ⟨← d.kind, ← d.position, ← d.orientation, ← d.message⟩

end Record

namespace Trace

/-- A trace as an array. -/
def toJson (t : Trace) : Json :=
  .array (t.toList.map Record.toJson)

/-- Reads a trace. -/
def decode : Decoder Trace := fun s =>
  match Decoder.list Record.decode s with
  | .ok records => .ok ⟨records.toArray⟩
  | .error f => .error f

end Trace

end MazeRobot

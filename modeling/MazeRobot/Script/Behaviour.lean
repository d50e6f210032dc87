import MazeRobot.Behaviour
import MazeRobot.Script.Evaluation.Statements

/-!
# The behaviour of a program

The body of a program is evaluated at the top, its function `start` at the
start and its function `update` at every tick, each without parameters. The two
functions are bound to one value, which is their memory together with the cells
of variables that closures captured. What cannot be caught has no place when it
leaves them.
-/

namespace MazeRobot.Script

/-- What lasts from one callback to the next. -/
structure Memory where
  /-- The value that the callbacks are bound to. -/
  self : Value
  /-- The cells of shared variables. -/
  cells : Array Holding

namespace Memory

/-- An empty map, and no cells. -/
def empty : Memory := ⟨.map [], #[]⟩

/-- The world in which a callback begins. -/
def world (m : Memory) : World :=
  { World.empty with cells := m.cells, self := some (.free m.self), blocks := 1 }

end Memory

/-- How an evaluation ends for those outside: with a world, or not well. If it was
broken off and the limit on steps is below the number of rounds, it was beyond the
limit. -/
def ending (limits : Limits) (rounds : Nat) (placed : Bool) :
    Option (Except Interrupt Value × World) → Except Stop World
  | none =>
    if Limits.exceeded limits.operations rounds then
      .error (.failed (Cause.tooMuch .operations).message)
    else .error .brokenOff
  | some (.error (.failed failure), _) =>
    if !placed && failure.cause.isFatal then .error (.failed failure.cause.message)
    else .error (.failed failure.message)
  | some (_, w) => .ok w

namespace Program

/-- Evaluates statements of a program, as far as that is followed. -/
def evaluate (p : Program) (limits : Limits) (rounds : Nat) (body : List Statement) (w : World) :
    Dialogue (Option (Except Interrupt Value × World)) :=
  Evaluation.sequence (Evaluation.eval rounds ⟨p, limits, rounds⟩) body w

/-- What a program does at the top. -/
def top (p : Program) (limits : Limits) (rounds : Nat) : Dialogue (Except Stop Unit) :=
  (p.evaluate limits rounds p.body World.empty).bind fun result =>
    .done ((ending limits rounds true result).map fun _ => ())

/-- What a function does as a callback. -/
def callback (p : Program) (limits : Limits) (rounds : Nat) (f : Function) (m : Memory) :
    Dialogue (Except Stop Memory) :=
  (p.evaluate limits rounds f.body m.world).bind fun result =>
    .done ((ending limits rounds false result).map fun w =>
      ⟨(w.self.getD (.free .unit)).value, w.cells⟩)

/-- What a program amounts to for a robot, if it is followed for so many rounds. -/
def behaviour (p : Program) (limits : Limits) (rounds : Nat) : Behaviour Memory where
  memory := .empty
  top := p.top limits rounds
  start := (p.function? "start" 0).map (p.callback limits rounds)
  update := (p.function? "update" 0).map (p.callback limits rounds)

end Program

end MazeRobot.Script

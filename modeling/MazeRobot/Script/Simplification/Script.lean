import MazeRobot.Script.Simplification.Statement

/-!
# Simplifying a whole script

The rules are tied together here. The body of a script and the bodies of its
functions are simplified each on its own. `fuel` bounds the nesting of parts;
what nests deeper stays as it is.
-/

namespace MazeRobot.Script

namespace Simplification

/-- How parts that nest at most so deep are simplified. -/
def deeper : Nat → Deeper
  | 0 => ⟨pure, fun _ => pure, fun _ => pure⟩
  | fuel + 1 => {
      expression := fun e => expression (deeper fuel) e
      statement := fun keepsValue s => statement (deeper fuel) keepsValue s
      block := fun m body => block (deeper fuel) m body }

/-- The simplified body of a script or a function. -/
def body (stringSize fuel : Nat) (statements : List Statement) : List Statement :=
  ((block (deeper fuel) .body statements).run ⟨[], false, stringSize⟩).1

end Simplification

namespace Program

/-- A script that does the same in fewer steps. A closure is called as it was
written. -/
def simplified (stringSize fuel : Nat) (p : Program) : Program where
  functions := p.functions.map fun f =>
    if f.isClosure then f else { f with body := Simplification.body stringSize fuel f.body }
  body := Simplification.body stringSize fuel p.body

end Program

end MazeRobot.Script

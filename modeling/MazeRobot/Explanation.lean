import MazeRobot.Json.Decode

/-!
# Explanations

What is told to a person when something fails: one line that says what was
tried, and the causes of the failure, outermost first.
-/

namespace MazeRobot

/-- One cause of a failure. -/
inductive Cause where
  /-- A plain line. -/
  | plain (text : String)
  /-- A text that is no JSON of the wanted shape. -/
  | json (fault : Fault)
  deriving DecidableEq, Repr

namespace Cause

/-- The line of a cause. -/
def text : Cause → String
  | plain text => text
  | json .malformed => "malformed JSON"
  | json .mismatched => "JSON of another shape"
  | json .truncated => "JSON that ends too early"

end Cause

/-- What is told about a failure. -/
structure Explanation where
  /-- The first line. -/
  message : String
  /-- What it was caused by, outermost first. -/
  causes : List Cause := []
  deriving DecidableEq, Repr

namespace Explanation

/-- A failure that only says what is wrong. -/
def plain (message : String) : Explanation := ⟨message, []⟩

/-- The same failure, seen from a task that it made fail. -/
def within (task : String) (e : Explanation) : Explanation :=
  ⟨task, .plain e.message :: e.causes⟩

/-- All lines, outermost first. -/
def lines (e : Explanation) : List String :=
  e.message :: e.causes.map Cause.text

end Explanation

end MazeRobot

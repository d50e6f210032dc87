import MazeRobot.Script.Known
import MazeRobot.Script.Library.Basic

/-!
# Ranges and progressions

Functions on ranges, and those that make progressions: numbers at equal
distances from one another.
-/

namespace MazeRobot.Script.Library

/-- The call that makes a progression. -/
def progression (isZero : Bool) (v : Value) : NativeResult :=
  if isZero then
    .error (.inCall "range" false (.arithmetic "step value cannot be zero") none)
  else Native.pure v

/-- Functions on ranges and progressions. -/
def ranges (name : String) (arguments : List Value) : Option NativeResult :=
  let ok (v : Value) : Option NativeResult := some (Native.pure v)
  match name, arguments with
  | "range", [.int low, .int high] => ok (.range low high false)
  | "range", [.int first, .int limit, .int step] =>
    some (progression (step == 0) (.steps first limit step))
  | "range", [.float first, .float limit, .float step] =>
    some (progression (first + step == first) (.floatSteps first limit step))
  | "range", [.range low high false, .int step] =>
    some (progression (step == 0) (.steps low high step))
  | "contains", [.range low high closed, .int n] =>
    ok (.bool ((Value.int n).isInRange (.range low high closed)))
  | "is_empty", [.range low high closed] => ok (.bool (Value.range low high closed).isEmptyRange)
  | "start", [.range low _ _] => ok (.int low)
  | "end", [.range _ high _] => ok (.int high)
  | "is_inclusive", [.range _ _ closed] => ok (.bool closed)
  | "is_exclusive", [.range _ _ closed] => ok (.bool !closed)
  | _, _ => none

end MazeRobot.Script.Library

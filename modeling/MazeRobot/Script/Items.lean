import MazeRobot.Script.Operator

/-!
# Going through values

What a loop goes through, one item after the other. A map has no order of its
own and cannot be gone through.
-/

namespace MazeRobot.Script

/-- What is still to be gone through. -/
inductive Items where
  /-- Values from a position on. -/
  | values (all : Array Value) (at_ : Nat)
  /-- Bytes from a position on. -/
  | bytes (all : Array UInt8) (at_ : Nat)
  /-- Characters. -/
  | letters (rest : List Char)
  /-- Bits. -/
  | bits (rest : List Bool)
  /-- All integers from one to another. -/
  | integers (next last : Int)
  /-- Integers at equal distances. -/
  | steps (next limit step : Int)
  /-- Numbers at equal distances. -/
  | floatSteps (next limit step : Float)

namespace Items

/-- What can be gone through of a value. -/
def ofValue? (v : Value) : Option Items :=
  match v.bare with
  | .array all => some (values all 0)
  | .blob all => some (bytes all 0)
  | .string s => some (letters s.toList)
  | .letters rest => some (letters rest)
  | .bits rest => some (bits rest)
  | .range low high closed =>
    some (integers low.toInt (if closed then high.toInt else high.toInt - 1))
  | .steps first limit step => some (steps first.toInt limit.toInt step.toInt)
  | .floatSteps first limit step => some (floatSteps first limit step)
  | _ => none

/-- The next item and what is left behind it. Of integers at equal distances one
is left out when there is no integer at that distance behind it. -/
def next? : Items → Option (Value × Items)
  | values all at_ => all[at_]?.map fun v => (v, values all (at_ + 1))
  | bytes all at_ => all[at_]?.map fun b => (.ofNat b.toNat, bytes all (at_ + 1))
  | letters [] => none
  | letters (c :: rest) => some (.char c, letters rest)
  | bits [] => none
  | bits (b :: rest) => some (.bool b, bits rest)
  | integers next last =>
    if next ≤ last then some (.int (Int64.ofInt next), integers (next + 1) last) else none
  | steps next limit step =>
    let after := next + step
    let inside := if 0 < step then decide (next < limit) else decide (limit < next)
    if inside ∧ Operator.minInt ≤ after ∧ after ≤ Operator.maxInt then
      some (.int (Int64.ofInt next), steps after limit step)
    else none
  | floatSteps next limit step =>
    let inside := (0.0 < step && next < limit) || (step < 0.0 && limit < next)
    if inside then some (.float next, floatSteps (next + step) limit step) else none

/-- A closed range ends with its last integer. -/
theorem next?_integers_last (n : Int) :
    next? (integers n n) = some (.int (Int64.ofInt n), integers (n + 1) n) := by
  simp [next?]

end Items

end MazeRobot.Script

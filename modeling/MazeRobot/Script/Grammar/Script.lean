import MazeRobot.Script.Grammar.Statement
import MazeRobot.Script.Simplification.Script

/-!
# From text to program

The parts of the grammar are tied together here. Every part begins with a
token of its own or is read on behalf of one that does, so a multiple of the
number of tokens bounds how deep the parts can nest. What is read is simplified
before it runs.
-/

namespace MazeRobot.Script

namespace Grammar

/-- Reads a part of a script. `fuel` bounds the nesting of parts. -/
def read : Nat → Recursion
  | 0, _, c => Reading.fail .tooDeep c.place
  | fuel + 1, part, c =>
    match part with
    | .statement => statement (read fuel) c
    | .choice => cond (read fuel) c
    | .block => block (read fuel) c
    | .expression => expression (read fuel) c
    | .operand => operand (read fuel) c
    | .operation least left => operation (read fuel) least left c

/-- The fuel for a number of tokens. -/
def fuelFor (tokens : Nat) : Nat :=
  10 * (tokens + 10)

/-- Where a whole script stands. -/
def outermost (limits : Limits) : Context where
  level := 0
  maxLevel := limits.depth
  maxItems := limits.collectionSize
  place := ⟨1, 1⟩
  atTop := true
  inFunction := false
  inLoop := false
  barEnds := false
  asData := false

end Grammar

namespace Program

/-- The program that a text denotes. -/
def ofText (limits : Limits) (text : String) : Except ParseError Program := do
  let tokens := Lexer.ofText limits.stringSize text
  let fuel := Grammar.fuelFor tokens.length
  let (body, reader) :=
    (Grammar.sequence (Grammar.read fuel) .eof (Grammar.outermost limits)).run (.ofTokens tokens)
  pure ((Program.mk reader.functions.reverse (← body)).simplified limits.stringSize fuel)

end Program

end MazeRobot.Script

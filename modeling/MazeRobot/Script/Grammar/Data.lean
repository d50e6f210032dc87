import MazeRobot.Script.Grammar.Script

/-!
# Data in an interchange format

A text of data is read like an expression of a script, but a brace opens a map, `null` is
the unit, and the names of entries stand between quotes. What only a script could mean by
its braces and parentheses has no place in it.
-/

namespace MazeRobot.Script.Data

/-- The complaint about what has no place in data. -/
def misplaced : Token := .bad (.improper "Invalid JSON syntax")

/-- What a token means in data. -/
def meaning : Token → Token
  | .reserved "null" => .symbol "()"
  | .symbol "\x7b" => .symbol "#\x7b"
  | .symbol "()" | .symbol "#\x7b" | .openText _ => misplaced
  | t => t

/-- The expression that a text of data denotes. -/
def ofText (limits : Limits) (text : String) : Except ParseError Expression := do
  let tokens := (Lexer.ofText limits.stringSize text).map fun found =>
    { found with token := meaning found.token }
  let context := { Grammar.outermost limits with asData := true }
  let (e, reader) :=
    (Grammar.read (Grammar.fuelFor tokens.length) .expression context).run (Reader.ofTokens tokens)
  let e ← e
  match reader.tokens with
  | [] => pure e
  | found :: _ =>
    match found.token with
    | .eof => pure e
    | .bad why => throw ⟨why, found.place⟩
    | t => throw ⟨.unexpected t.spelling, found.place⟩

/-- A brace opens a map. -/
theorem meaning_brace : meaning (.symbol "\x7b") = .symbol "#\x7b" := rfl

end MazeRobot.Script.Data

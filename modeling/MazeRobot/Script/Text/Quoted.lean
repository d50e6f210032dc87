import MazeRobot.Script.Text.Hidden

/-!
# Quoted texts

A text inside an array or a map is shown between quotes, so that it can be told
from other values. Quotes, backslashes, line ends and hidden characters are
escaped.
-/

namespace MazeRobot.Script.Text

/-- The hexadecimal digits of a number, without leading zeros. -/
def hexDigits (n : Nat) : List Char :=
  Nat.toDigits 16 n

/-- How a character is written between quotes of the given kind. -/
def escaped (quote c : Char) : List Char :=
  if c = quote then ['\\', c]
  else if c = '\\' then ['\\', '\\']
  else if c = '\n' then ['\\', 'n']
  else if c = '\r' then ['\\', 'r']
  else if c = '\t' then ['\\', 't']
  else if c = '\x00' then ['\\', '0']
  else if isHidden c then ['\\', 'u', '{'] ++ hexDigits c.toNat ++ ['}']
  else [c]

/-- A text between double quotes. -/
def quoted (s : String) : List Char :=
  '"' :: s.toList.flatMap (escaped '"') ++ ['"']

/-- A character between single quotes. -/
def quotedChar (c : Char) : List Char :=
  '\'' :: escaped '\'' c ++ ['\'']

end MazeRobot.Script.Text

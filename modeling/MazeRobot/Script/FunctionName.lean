import MazeRobot.Script.Failure
import MazeRobot.Script.Lexer

/-!
# Names of functions

A text names a function if a script could define a function of that name.
-/

namespace MazeRobot.Script.FunctionName

/-- Whether a text is made like a name: a letter, behind which there are letters,
digits and underscores. -/
def isName (name : String) : Bool :=
  let cs := name.toList
  cs.all Lexer.continuesName && (cs.dropWhile (· == '_')).head?.any Char.isAlpha

/-- Whether a text is a word or a symbol that is kept for other uses. -/
def isReserved (name : String) : Bool :=
  name == "_" || name == "this" || name == "eval" || Token.keywords.contains name ||
    Token.callableWords.contains name || Token.futureWords.contains name ||
    Lexer.symbols.contains name || Lexer.strangeSymbols.contains name

/-- The complaint about a text that is kept for other uses. -/
def reservation (name : String) : Complaint :=
  if isName name then .reservedWord name else .reservedSymbol name

/-- Why a text names no function, if it names none. -/
def fault? (name : String) : Option Cause :=
  if isReserved name then some (.malformed (reservation name))
  else if isName name then none
  else some (.noFunction name)

/-- A keyword names no function. -/
theorem fault?_of_keyword {name : String} (h : name ∈ Token.keywords) :
    fault? name = some (.malformed (reservation name)) := by
  simp [fault?, isReserved, h]

end MazeRobot.Script.FunctionName

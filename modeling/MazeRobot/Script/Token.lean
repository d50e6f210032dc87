import MazeRobot.Script.Complaint

/-!
# Tokens

What the text of a script is cut into. Keywords and symbols carry their own
spelling. A piece of text that breaks the rules becomes a token too, so that
the complaint about it is made only when a reader comes to that place.
-/

namespace MazeRobot.Script

/-- A piece of a script. -/
inductive Token where
  /-- An integer literal. -/
  | int (value : Int64)
  /-- A literal with a fraction or an exponent, or an integer that is too
  large; the digits are those of the text. -/
  | float (digits : String)
  /-- A character between single quotes. -/
  | char (value : Char)
  /-- A text literal, or the part of one behind its last hole. -/
  | string (value : String)
  /-- The part of a text literal before a hole. -/
  | openText (value : String)
  /-- A name. -/
  | name (value : String)
  /-- A word with a meaning of its own. -/
  | keyword (word : String)
  /-- A word that is kept for later, or names a built-in function. -/
  | reserved (word : String)
  /-- A symbol with a meaning. -/
  | symbol (text : String)
  /-- A symbol that is kept for later. -/
  | strange (text : String)
  /-- A piece that breaks the rules. -/
  | bad (complaint : Complaint)
  /-- The end of the text. -/
  | eof
  deriving DecidableEq, Repr, Inhabited

namespace Token

/-- The words with a meaning of their own. -/
def keywords : List String :=
  ["true", "false", "let", "const", "if", "else", "switch", "do", "while", "until", "loop",
    "for", "in", "continue", "break", "fn", "private", "return", "throw", "try", "catch",
    "import", "export", "as"]

/-- Reserved words that may be called like functions. -/
def callableWords : List String :=
  ["print", "debug", "type_of", "eval", "Fn", "call", "curry", "is_def_fn", "is_def_var",
    "is_shared"]

/-- Reserved words that may be called in method style. -/
def methodWords : List String :=
  ["type_of", "call", "curry", "is_shared"]

/-- Words that are kept for later. -/
def futureWords : List String :=
  ["public", "protected", "super", "new", "use", "module", "package", "var", "static",
    "shared", "with", "is", "goto", "match", "case", "default", "void", "null", "nil",
    "spawn", "thread", "go", "sync", "async", "await", "yield"]

/-- The token of a word. -/
def ofWord (word : String) : Token :=
  if word = "_" then symbol "_"
  else if keywords.contains word then keyword word
  else if word = "eval" then bad (.improper "reserved keyword 'eval' is disabled")
  else if word = "this" ∨ callableWords.contains word ∨ futureWords.contains word then
    reserved word
  else if word.toList.all (fun c => c == '_' || c.isDigit) ||
      ((word.toList.dropWhile (· == '_')).head?.any Char.isDigit) then bad (.badName word)
  else name word

/-- The symbols and words behind which an operand begins, so that a minus
before a digit belongs to the number. -/
def operandMarks : List String :=
  [";", ":", ",", "\x7b", "(", "[", "?[", "??", "..", "..=",
    "+", "+=", "-", "-=", "*", "*=", "/", "/=", "%", "%=", "**", "**=", "<<", "<<=", ">>", ">>=",
    "=", "==", "!=", "<", ">", "!", "<=", ">=", "|", "&", "!in", "&&", "&=", "||", "|=", "^", "^="]

/-- Whether a minus behind the token may be the sign of a number. -/
def admitsSign : Token → Bool
  | symbol s => operandMarks.contains s
  | keyword word => ["if", "while", "until", "in", "return", "throw"].contains word
  | _ => false

/-- How a token is spelled in a complaint. -/
def spelling : Token → String
  | int value => toString value.toInt
  | float digits => digits
  | char value => String.singleton value
  | string value => value
  | openText value => value
  | name value => value
  | keyword word => word
  | reserved word => word
  | symbol text => text
  | strange text => text
  | bad _ => ""
  | eof => "\x7bEOF\x7d"

end Token

/-- A token and where it begins. -/
structure Located where
  /-- The token. -/
  token : Token
  /-- Where it begins. -/
  place : Place
  deriving Repr, Inhabited

end MazeRobot.Script

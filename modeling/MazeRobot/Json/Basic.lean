/-!
# JSON values and their text

A JSON value here holds integers, texts, arrays and objects whose members keep
their order. It is written in two layouts: compact, without any blank, and
pretty, with one member or item on a line, two more spaces on each level, and
empty arrays and objects closed at once. Numbers with a fraction are not
needed by anything that is written.
-/

namespace MazeRobot

/-- A JSON value. -/
inductive Json where
  /-- The absent value. -/
  | null
  /-- A truth value. -/
  | bool (value : Bool)
  /-- An integer. -/
  | number (value : Int)
  /-- A text. -/
  | string (value : String)
  /-- Values in order. -/
  | array (items : List Json)
  /-- Named values in order. -/
  | object (members : List (String × Json))
  deriving Repr, Inhabited

namespace Json

/-- A digit of a hexadecimal numeral, in lower case. -/
def hexDigit (n : Nat) : Char :=
  if n < 10 then Char.ofNat (48 + n) else Char.ofNat (87 + n)

/-- How a character is written inside a text: quotes, backslashes and control
characters are escaped, everything else stands for itself. -/
def escape (c : Char) : List Char :=
  if c = '"' then ['\\', '"']
  else if c = '\\' then ['\\', '\\']
  else if c = '\x08' then ['\\', 'b']
  else if c = '\x0c' then ['\\', 'f']
  else if c = '\n' then ['\\', 'n']
  else if c = '\r' then ['\\', 'r']
  else if c = '\t' then ['\\', 't']
  else if c.toNat < 32 then
    ['\\', 'u', '0', '0', hexDigit (c.toNat / 16), hexDigit (c.toNat % 16)]
  else [c]

/-- The characters of a text, escaped. -/
def escapeAll : List Char → List Char
  | [] => []
  | c :: rest => escape c ++ escapeAll rest

/-- A text between quotes. -/
def quote (s : String) : List Char :=
  '"' :: (escapeAll s.toList ++ ['"'])

/-- The decimal digits of a natural number. -/
def natDigits (n : Nat) : List Char :=
  (Nat.toDigits 10 n)

/-- The decimal numeral of an integer. -/
def intDigits : Int → List Char
  | .ofNat n => natDigits n
  | .negSucc n => '-' :: natDigits (n + 1)

/-- How items are set apart: what follows an opening bracket, stands between
two items and precedes the closing bracket, at a nesting level, and what
follows the colon of a member. -/
structure Layout where
  /-- After an opening bracket and after a comma, for items at this level. -/
  item : Nat → List Char
  /-- Before a closing bracket, for items at this level. -/
  close : Nat → List Char
  /-- After a colon. -/
  colon : List Char

namespace Layout

/-- Nothing but what the grammar demands. -/
def compact : Layout := ⟨fun _ => [], fun _ => [], []⟩

/-- A new line, indented by two spaces for each level. -/
def newline (level : Nat) : List Char :=
  '\n' :: List.replicate (2 * level) ' '

/-- Each item on its own line. -/
def pretty : Layout := ⟨newline, fun level => newline (level - 1), [' ']⟩

end Layout

mutual

/-- The text of a value in a layout; its items stand at `level`. -/
def write (layout : Layout) (level : Nat) : Json → List Char
  | null => ['n', 'u', 'l', 'l']
  | bool true => ['t', 'r', 'u', 'e']
  | bool false => ['f', 'a', 'l', 's', 'e']
  | number n => intDigits n
  | string s => quote s
  | array [] => ['[', ']']
  | array (first :: rest) =>
    '[' :: (layout.item level ++ (write layout (level + 1) first ++
      (writeItems layout level rest ++ (layout.close level ++ [']']))))
  | object [] => ['{', '}']
  | object ((name, first) :: rest) =>
    '{' :: (layout.item level ++ (quote name ++ (':' :: (layout.colon ++
      (write layout (level + 1) first ++
        (writeMembers layout level rest ++ (layout.close level ++ ['}'])))))))

/-- The text of further items, each after a comma. -/
def writeItems (layout : Layout) (level : Nat) : List Json → List Char
  | [] => []
  | item :: rest =>
    ',' :: (layout.item level ++ (write layout (level + 1) item ++
      writeItems layout level rest))

/-- The text of further members, each after a comma. -/
def writeMembers (layout : Layout) (level : Nat) : List (String × Json) → List Char
  | [] => []
  | (name, item) :: rest =>
    ',' :: (layout.item level ++ (quote name ++ (':' :: (layout.colon ++
      (write layout (level + 1) item ++ writeMembers layout level rest)))))

end

/-- The text of a value without any blank. -/
def compact (j : Json) : String :=
  String.ofList (write .compact 1 j)

/-- The text of a value with one item on a line. -/
def pretty (j : Json) : String :=
  String.ofList (write .pretty 1 j)

end Json

end MazeRobot

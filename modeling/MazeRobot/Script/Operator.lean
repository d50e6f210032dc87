import MazeRobot.Script.Failure
import MazeRobot.Script.Fraction
import MazeRobot.Script.Text.Decoding

/-!
# Operators

What unary and binary operators do with values. Integer arithmetic is checked:
a result that does not exist or does not fit is a failure. A number with a
fraction makes its partner one as well. Some rules are built in; the others are
functions that an operator calls, and where there is none either, the operator
is a function that nobody defined.
-/

namespace MazeRobot.Script.Operator

/-- The signature of a call, as a complaint shows it. -/
def signature (name : String) (arguments : List Value) : String :=
  name ++ " (" ++ String.intercalate ", " (arguments.map Value.signatureName) ++ ")"

/-- The failure of an operator or function that nobody defined. -/
def undefined (name : String) (arguments : List Value) : Cause :=
  .noFunction (signature name arguments)

/-- The least integer. -/
def minInt : Int := -9223372036854775808

/-- The greatest integer. -/
def maxInt : Int := 9223372036854775807

/-- An integer, if it fits. -/
def checked (n : Int) (otherwise : Cause) : Except Cause Value :=
  if minInt ≤ n ∧ n ≤ maxInt then .ok (.int (Int64.ofInt n)) else .error otherwise

/-- The power of an integer by squaring, given up as soon as it cannot fit. -/
def power (base : Int) (exponent : Nat) : Option Int :=
  if base = 0 ∨ base = 1 then some (if exponent = 0 then 1 else base)
  else if base = -1 then some (if exponent % 2 = 0 then 1 else -1)
  else if 63 < exponent then none
  else some (Int.pow base exponent)

/-- Shifts an integer to the left; to the right if the amount is negative. After
64 places nothing but the sign is left of it on the right, and nothing at all on
the left. -/
def shift (n : Int64) (amount : Int) : Int64 :=
  if 64 ≤ amount then 0
  else if amount ≤ -64 then if n < 0 then -1 else 0
  else if 0 ≤ amount then n <<< Int64.ofInt amount
  else n >>> Int64.ofInt (-amount)

/-- An amount the other way round; the least integer becomes the greatest. -/
def reversed (amount : Int) : Int :=
  min (-amount) maxInt

/-- Whether a symbol compares by order. -/
def isOrder (symbol : String) : Bool :=
  symbol == "<" || symbol == "<=" || symbol == ">" || symbol == ">="

/-- A comparison of two values of which one is less or not, and which are equal
or not. -/
def compared? (symbol : String) (less equal : Bool) : Option Value :=
  match symbol with
  | "==" => some (.bool equal)
  | "!=" => some (.bool !equal)
  | "<" => some (.bool less)
  | "<=" => some (.bool (less || equal))
  | ">" => some (.bool !(less || equal))
  | ">=" => some (.bool !less)
  | _ => none

/-- A comparison of two values that are different and have no order. -/
def different? (symbol : String) : Option Value :=
  if symbol = "!=" then some (.bool true)
  else if symbol = "==" ∨ isOrder symbol then some (.bool false)
  else none

/-- An operator on two integers. -/
def ofInts? (symbol : String) (a b : Int64) : Option (Except Cause Value) :=
  let x := a.toInt
  let y := b.toInt
  let fault (what : String) : Cause := .arithmetic s!"{what}: {x} {symbol} {y}"
  match symbol with
  | "+" => some (checked (x + y) (fault "Addition overflow"))
  | "-" => some (checked (x - y) (fault "Subtraction overflow"))
  | "*" => some (checked (x * y) (fault "Multiplication overflow"))
  | "/" =>
    some (if y = 0 then .error (fault "Division by zero")
      else checked (x.tdiv y) (fault "Division overflow"))
  | "%" =>
    some (if y = 0 ∨ (x = minInt ∧ y = -1) then
        .error (fault "Modulo division by zero or overflow")
      else .ok (.int (Int64.ofInt (x.tmod y))))
  | "**" =>
    some (if y < 0 then .error (fault "Integer raised to a negative power")
      else if 4294967295 < y then .error (fault "Exponential overflow")
      else
        match power x y.toNat with
        | some n => checked n (fault "Exponential overflow")
        | none => .error (fault "Exponential overflow"))
  | "<<" => some (.ok (.int (shift a y)))
  | ">>" => some (.ok (.int (shift a (reversed y))))
  | "&" => some (.ok (.int (a &&& b)))
  | "|" => some (.ok (.int (a ||| b)))
  | "^" => some (.ok (.int (a ^^^ b)))
  | ".." => some (.ok (.range a b false))
  | "..=" => some (.ok (.range a b true))
  | _ => (compared? symbol (a < b) (a == b)).map .ok

/-- An operator on two numbers, one of them with a fraction. -/
def ofFloats? (symbol : String) (a b : Float) : Option Value :=
  match symbol with
  | "+" => some (.float (a + b))
  | "-" => some (.float (a - b))
  | "*" => some (.float (a * b))
  | "/" => some (.float (a / b))
  | "%" => some (.float (Fraction.remainder a b))
  | "**" => some (.float (a.pow b))
  | _ => (Fraction.compare? symbol a b).map .bool

/-- A text without the parts that equal another one. -/
def without (a b : String) : String :=
  if b = "" then a else a.replace b ""

/-- An operator on two texts. -/
def ofStrings? (symbol : String) (a b : String) : Option Value :=
  match symbol with
  | "+" => some (.string (a ++ b))
  | "-" => some (.string (without a b))
  | _ => compared? symbol (a < b) (a == b)

/-- An operator on two truth values. -/
def ofBools? (symbol : String) (a b : Bool) : Option Value :=
  match symbol with
  | "&" => some (.bool (a && b))
  | "|" => some (.bool (a || b))
  | "^" => some (.bool (a != b))
  | _ => compared? symbol (!a && b) (a == b)

/-- The integers of a range that lacks a bound. -/
def openRange? (symbol : String) (low high : Int64) : Option Value :=
  if symbol = ".." then some (.range low high false)
  else if symbol = "..=" then some (.range low high true)
  else none

/-- The bytes of a character. -/
def bytesOf (c : Char) : Array UInt8 :=
  Text.encoded (String.singleton c)

/-- The rules of binary operators that are built in. Values of different types
are different, and none of them is less. -/
def builtIn? (symbol : String) (a b : Value) : Option (Except Cause Value) :=
  let differing : Option (Except Cause Value) := (different? symbol).map .ok
  match a, b with
  | .int x, .int y => ofInts? symbol x y
  | .float x, .float y => (ofFloats? symbol x y).map .ok
  | .int x, .float y => (ofFloats? symbol (Fraction.ofInt x) y).map .ok
  | .float x, .int y => (ofFloats? symbol x (Fraction.ofInt y)).map .ok
  | .bool x, .bool y => (ofBools? symbol x y).map .ok
  | .string x, .string y => (ofStrings? symbol x y).map .ok
  | .string x, .char y => (ofStrings? symbol x (String.singleton y)).map .ok
  | .char x, .string y =>
    if symbol = "-" then none else (ofStrings? symbol (String.singleton x) y).map .ok
  | .char x, .char y =>
    if symbol = "-" then none
    else (ofStrings? symbol (String.singleton x) (String.singleton y)).map .ok
  | .unit, .unit =>
    (compared? symbol false true).map fun v => .ok (if isOrder symbol then .bool false else v)
  | .int x, .unit => (openRange? symbol x Int64.maxValue).map .ok <|> differing
  | .unit, .int y => (openRange? symbol 0 y).map .ok <|> differing
  | .unit, .string s | .string s, .unit =>
    if symbol = "+" then some (.ok (.string s)) else differing
  | .string s, .blob bytes =>
    if symbol = "+" then some (.ok (.string (s ++ Text.decoded bytes))) else differing
  | .blob bytes, .char c =>
    if symbol = "+" then some (.ok (.blob (bytes ++ bytesOf c))) else differing
  | .range low high false, .range low' high' false
  | .range low high true, .range low' high' true =>
    if isOrder symbol then none
    else (compared? symbol false (low == low' && high == high')).map .ok
  | .range .., .range .. => if isOrder symbol then none else differing
  | a, b => if a.sameType b then none else differing

mutual

/-- Whether two values are equal. Functions cannot be compared, and neither can
progressions. -/
def equal (a b : Value) : Except Cause Bool :=
  match a, b.bare with
  | .tagged _ a, b => equal a b
  | .array ⟨as⟩, .array ⟨bs⟩ =>
    if as.length = bs.length then equalItems as bs else .ok false
  | .map as, .map bs =>
    if as.length = bs.length then equalEntries as bs else .ok false
  | .blob as, .blob bs => .ok (as == bs)
  | a, b =>
    match builtIn? "==" a b with
    | some (.ok v) => .ok v.isTrue
    | some (.error c) => .error c
    | none => .error (undefined "==" [a, b])

/-- Whether the items of two lists of one length are equal, up to the first pair
that is not. -/
def equalItems : List Value → List Value → Except Cause Bool
  | a :: as, b :: bs =>
    match equal a b with
    | .ok true => equalItems as bs
    | other => other
  | _, _ => .ok true

/-- Whether a map has all the entries of another one. -/
def equalEntries : List (String × Value) → List (String × Value) → Except Cause Bool
  | [], _ => .ok true
  | (name, a) :: rest, bs =>
    match Entries.find bs name with
    | none => .ok false
    | some b =>
      match equal a b with
      | .ok true => equalEntries rest bs
      | other => other

end

/-- The functions that operators call where no rule is built in: collections of
one kind are joined and compared, and a text takes anything. -/
def function? (symbol : String) (a b : Value) : Option (Except Cause Value) :=
  let equality : Option (Except Cause Value) :=
    if symbol = "==" then some ((equal a b).map .bool)
    else if symbol = "!=" then some ((equal a b).map fun same => .bool !same)
    else none
  match a, b with
  | .array x, .array y => if symbol = "+" then some (.ok (.array (x ++ y))) else equality
  | .blob x, .blob y => if symbol = "+" then some (.ok (.blob (x ++ y))) else equality
  | .map x, .map y => if symbol = "+" then some (.ok (.map (Entries.merge x y))) else equality
  | .blob x, .string s => if symbol = "+" then some (.ok (.string (Text.decoded x ++ s))) else none
  | .string s, v => if symbol = "+" then some (.ok (.string (s ++ v.printed))) else none
  | v, .string s => if symbol = "+" then some (.ok (.string (v.printed ++ s))) else none
  | _, _ => none

/-- A binary operator. -/
def binary (symbol : String) (a b : Value) : Except Cause Value :=
  match builtIn? symbol a b <|> function? symbol a b with
  | some result => result
  | none => .error (undefined symbol [a, b])

/-- The functions that unary operators call. -/
def unary? (symbol : String) (a : Value) : Option (Except Cause Value) :=
  match symbol, a with
  | "-", .int n => some (checked (-n.toInt) (.arithmetic "integer overflow"))
  | "-", .float x => some (.ok (.float (-x)))
  | "+", .int n => some (.ok (.int n))
  | "+", .float x => some (.ok (.float x))
  | "!", .bool b => some (.ok (.bool !b))
  | _, _ => none

/-- What an assignment through an operator holds against the limits, and where a complaint
about it stands. -/
inductive Watch where
  /-- Nothing: the new value may be of any size. -/
  | nothing
  /-- The old value, at the assignment. -/
  | old
  /-- The new value, at the assignment. -/
  | new
  /-- The new value, at the variable that changes. -/
  | changed

/-- How an assignment through an operator comes out. -/
structure Assigned where
  /-- The new value. -/
  result : Except Cause Value
  /-- How many functions were looked for. -/
  lookups : Nat
  /-- What must not be too large. -/
  watch : Watch

/-- The value of a number as a byte. -/
def byte (n : Int64) : UInt8 := UInt8.ofInt n.toInt

/-- The rules of assignments through operators that are built in. An array takes
a single value as one more item; all the items of another one may make it too large, but a
further array then no longer joins it. -/
def assigned? (symbol : String) (a item : Value) : Option Assigned :=
  let adding (v : Value) (watch : Watch) : Option Assigned :=
    if symbol = "+" then some ⟨.ok v, 0, watch⟩ else none
  let b := item.bare
  let rule : Option Assigned := (builtIn? symbol a b).map fun result => ⟨result, 0, .new⟩
  match a, b with
  | .array x, .array y => adding (.array (x ++ y)) (if y.isEmpty then .nothing else .old)
  | .array x, _ => adding (.array (x.push item)) .new
  | .blob x, .blob y => adding (.blob (x ++ y)) .new
  | .blob x, .int n => adding (.blob (x.push (byte n))) .new
  | .blob x, .char c => adding (.blob (x ++ bytesOf c)) .nothing
  | .blob x, .string s => adding (.blob (x ++ Text.encoded s)) .new
  | .char _, .char _ => rule.map fun outcome => { outcome with watch := .nothing }
  | .int _, .int _ | .float _, .float _ | .float _, .int _ | .bool _, .bool _
  | .string _, .string _ | .string _, .char _ | .char _, .string _ => rule
  | _, _ => none

/-- An assignment of a value through an operator to something that holds `before`. What is
built in changes what is held, which keeps its tag; all else makes a new value. A text and a
map have a function of their own for this. -/
def through (symbol : String) (before v : Value) : Assigned :=
  let a := before.bare
  match assigned? symbol a v with
  | some outcome => { outcome with result := outcome.result.map before.inPlaceOf }
  | none =>
    let b := v.bare
    let isOwn :=
      match a, b with
      | .string _, _ => true
      | .map _, .map _ => true
      | _, _ => false
    if symbol == "+" && isOwn then ⟨binary symbol a b, 1, .changed⟩
    else ⟨binary symbol a b, 2, .new⟩

end MazeRobot.Script.Operator

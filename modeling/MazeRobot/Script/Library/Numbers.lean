import MazeRobot.Numeral
import MazeRobot.Script.Library.Strings

/-!
# Numbers

Functions on numbers, and the reading of numbers from texts.
-/

namespace MazeRobot.Script.Library

/-- The call that reads an integer from a text. -/
def parseInt (s : String) (base : Nat) : NativeResult :=
  match Numeral.integer base (trim s).toList with
  | .ok n => Native.pure (.int n)
  | .error why => .error (.arithmetic s!"Error parsing integer number '{s}': {why.message}")

/-- Whether a text is made of digits with at most one point, and perhaps an
exponent behind them. -/
def isDecimal (cs : List Char) : Bool :=
  let (whole, rest) := cs.span Char.isDigit
  let (fraction, rest) :=
    match rest with
    | '.' :: rest => rest.span Char.isDigit
    | rest => ([], rest)
  let exponent (cs : List Char) : Bool := !cs.isEmpty && cs.all Char.isDigit
  (!whole.isEmpty || !fraction.isEmpty) &&
    match rest with
    | [] => true
    | 'e' :: '+' :: digits | 'e' :: '-' :: digits => exponent digits
    | 'e' :: digits => exponent digits
    | _ => false

/-- The number that a text without a sign denotes. -/
def unsignedFloat? (cs : List Char) : Option Float :=
  let small := cs.map Char.toLower
  let word := String.ofList small
  if word = "inf" ∨ word = "infinity" then some (1.0 / 0.0)
  else if word = "nan" then some (0.0 / 0.0)
  else if isDecimal small then some (Decimal.read word)
  else none

/-- The call that reads a number with a fraction from a text. -/
def parseFloat (s : String) : NativeResult :=
  let fault (why : String) : NativeResult :=
    .error (.arithmetic s!"Error parsing floating-point number '{s}': {why}")
  let number (negative : Bool) (cs : List Char) : NativeResult :=
    match unsignedFloat? cs with
    | some x => Native.pure (.float (if negative then -x else x))
    | none => fault "invalid float literal"
  match (trim s).toList with
  | [] => fault "cannot parse float from empty string"
  | '-' :: rest => number true rest
  | '+' :: rest => number false rest
  | cs => number false cs

/-- The integer without its sign. -/
def absolute (n : Int64) : NativeResult :=
  match Operator.checked n.toInt.natAbs (.arithmetic s!"Negation overflow: -{n.toInt}") with
  | .ok v => Native.pure v
  | .error e => .error e

/-- The sign of a number with a fraction. -/
def floatSign (x : Float) : NativeResult :=
  if x == 0.0 then Native.pure (.int 0)
  else if x.isNaN then .error (.arithmetic "Sign of NaN is undefined")
  else Native.pure (.int (if x < 0.0 then -1 else 1))

/-- The lesser or greater of two values; of two equal ones the first. -/
def choose? (greater : Bool) (a b : Value) : Option Value :=
  let pick (less more : Bool) : Value :=
    if greater then if more then b else a else if less then b else a
  let floats (x y : Float) : Value :=
    .float (if greater then Fraction.greatest x y else Fraction.least x y)
  match a, b with
  | .int x, .int y => some (pick (y < x) (x < y))
  | .float x, .float y => some (floats x y)
  | .int x, .float y => some (floats (Fraction.ofInt x) y)
  | .float x, .int y => some (floats x (Fraction.ofInt y))
  | .char x, .char y => some (pick (y < x) (x < y))
  | .string x, .string y => some (pick (y < x) (x < y))
  | _, _ => none

/-- An integer near a number with a fraction, if there is one. -/
def toInt (x : Float) : NativeResult :=
  if 9223372036854775808.0 < x || x < -9223372036854775808.0 then
    .error (.arithmetic s!"Integer overflow: to_int({Decimal.textWith .plain x})")
  else if x.isNaN then Native.pure (.int 0)
  else Native.pure (.int x.toInt64)

/-- The digits of an integer in another base, as a word of 64 bits. -/
def inBase (base : Nat) (n : Int64) : NativeResult :=
  Native.pure (.string (String.ofList (Nat.toDigits base n.toUInt64.toNat)))

/-- Functions on integers. -/
def integers (name : String) (arguments : List Value) : Option NativeResult :=
  match name, arguments with
  | "abs", [.int n] => some (absolute n)
  | "sign", [.int n] => some (Native.pure (.int (Int64.ofInt n.toInt.sign)))
  | "is_zero", [.int n] => some (Native.pure (.bool (n == 0)))
  | "is_even", [.int n] => some (Native.pure (.bool (n.toInt % 2 == 0)))
  | "is_odd", [.int n] => some (Native.pure (.bool (n.toInt % 2 != 0)))
  | "to_int", [.int n] => some (Native.pure (.int n))
  | "to_float", [.int n] => some (Native.pure (.float (Fraction.ofInt n)))
  | "to_hex", [.int n] => some (inBase 16 n)
  | "to_octal", [.int n] => some (inBase 8 n)
  | "to_binary", [.int n] => some (inBase 2 n)
  | "to_int", [.char c] => some (Native.pure (.ofNat c.toNat))
  | _, _ => none

/-- A function from numbers to numbers. -/
def realFunction? (name : String) : Option (Float → Float) :=
  match name with
  | "abs" => some Float.abs
  | "floor" => some Float.floor
  | "ceiling" => some Float.ceil
  | "round" => some Float.round
  | "int" => some Fraction.whole
  | "fraction" => some fun x => x - Fraction.whole x
  | "sqrt" => some Float.sqrt
  | "exp" => some Float.exp
  | "ln" => some Float.log
  | "log" => some Float.log10
  | "sin" => some Float.sin
  | "cos" => some Float.cos
  | "tan" => some Float.tan
  | "sinh" => some Float.sinh
  | "cosh" => some Float.cosh
  | "tanh" => some Float.tanh
  | "asin" => some Float.asin
  | "acos" => some Float.acos
  | "atan" => some Float.atan
  | "asinh" => some Float.asinh
  | "acosh" => some Float.acosh
  | "atanh" => some Fraction.atanh
  | "to_degrees" => some fun x => x * (180.0 / 3.141592653589793)
  | "to_radians" => some fun x => x * (3.141592653589793 / 180.0)
  | "to_float" => some fun x => x
  | _ => none

/-- Functions on numbers with a fraction. -/
def floats (name : String) (arguments : List Value) : Option NativeResult :=
  match name, arguments with
  | "sign", [.float x] => some (floatSign x)
  | "is_zero", [.float x] => some (Native.pure (.bool (x == 0.0)))
  | "is_nan", [.float x] => some (Native.pure (.bool x.isNaN))
  | "is_finite", [.float x] => some (Native.pure (.bool x.isFinite))
  | "is_infinite", [.float x] => some (Native.pure (.bool x.isInf))
  | "to_int", [.float x] => some (toInt x)
  | "log", [.float x, .float base] => some (Native.pure (.float (x.log / base.log)))
  | "atan", [.float x, .float y] => some (Native.pure (.float (x.atan2 y)))
  | "hypot", [.float x, .float y] => some (Native.pure (.float (Fraction.hypotenuse x y)))
  | name, [.float x] => (realFunction? name).map fun f => Native.pure (.float (f x))
  | _, _ => none

/-- Functions on numbers, and those that make them. -/
def numbers (name : String) (arguments : List Value) : Option NativeResult :=
  match name, arguments with
  | "PI", [] => some (Native.pure (.float 3.141592653589793))
  | "E", [] => some (Native.pure (.float 2.718281828459045))
  | "min", [a, b] => (choose? false a b).map Native.pure
  | "max", [a, b] => (choose? true a b).map Native.pure
  | "parse_int", [.string s] => some (parseInt s 10)
  | "parse_int", [.string s, .int base] =>
    if base < 2 ∨ 36 < base then
      some (.error (.arithmetic s!"Invalid radix: '{base.toInt}'"))
    else some (parseInt s base.toInt.toNat)
  | "parse_float", [.string s] => some (parseFloat s)
  | name, arguments => integers name arguments <|> floats name arguments

end MazeRobot.Script.Library

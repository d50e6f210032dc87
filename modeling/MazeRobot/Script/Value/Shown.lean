import MazeRobot.Script.Decimal
import MazeRobot.Script.Text.Quoted
import MazeRobot.Script.Value

/-!
# The text of values

A value that stands alone is written as it is: a text and a character without
quotes, the unit as nothing. What stands inside an array or a map is written so
that it can be told from other values. Printing is short about it and leaves
characters bare; what is thrown is written in full.
-/

namespace MazeRobot.Script.Value

/-- The digits of an integer. -/
def intText (n : Int64) : List Char :=
  (toString n.toInt).toList

/-- The text of a range; one up to the greatest integer is open. -/
def rangeText (low high : Int64) (closed : Bool) : List Char :=
  intText low ++ (if closed then ['.', '.', '='] else ['.', '.']) ++
    (if high = Int64.maxValue then [] else intText high)

/-- The two hexadecimal digits of a byte. -/
def byteText (b : UInt8) : List Char :=
  let digits := Nat.toDigits 16 b.toNat
  if digits.length < 2 then '0' :: digits else digits

/-- The text of bytes, from the one at position `at_` on, in groups of eight. -/
def bytesText (at_ : Nat) : List UInt8 → List Char
  | [] => [']']
  | b :: rest =>
    (if 0 < at_ ∧ at_ % 8 = 0 then ' ' :: byteText b else byteText b) ++ bytesText (at_ + 1) rest

/-- How what is inside arrays and maps is shown. -/
structure Style where
  /-- Whether characters stand between quotes, functions show what they captured, and
  progressions show of what kind they are. -/
  inFull : Bool

/-- With everything that can be told. -/
def Style.full : Style := ⟨true⟩

/-- As short as can be. -/
def Style.short : Style := ⟨false⟩

/-- The name of what can only be gone through. -/
def progressionText (style : Style) (kind : String) : List Char :=
  (if style.inFull then "rhai::packages::iter_basic::" ++ kind else "range").toList

mutual

/-- The text of a value inside an array or a map. -/
def inner (style : Style) : Value → List Char
  | unit => ['(', ')']
  | bool b => (toString b).toList
  | int n => intText n
  | float x => (Decimal.textWith .nested x).toList
  | char c => if style.inFull then Text.quotedChar c else [c]
  | string s => Text.quoted s
  | array ⟨[]⟩ => ['[', ']']
  | array ⟨first :: rest⟩ => '[' :: (inner style first ++ innerItems style rest)
  | blob bytes => '[' :: bytesText 0 bytes.toList
  | map [] => ['#', '{', '}']
  | map ((name, first) :: rest) =>
    '#' :: '{' :: (Text.quoted name ++ (':' :: ' ' :: (inner style first ++
      innerEntries style rest)))
  | function name _ captured =>
    'F' :: 'n' :: '(' ::
      (if style.inFull then Text.quoted name ++ innerCaptured style captured
        else name.toList ++ [')'])
  | range low high closed => rangeText low high closed
  | steps .. => progressionText style "StepRange<i64>"
  | floatSteps .. => progressionText style "StepRange<f64>"
  | letters _ => progressionText style "CharsStream"
  | bits _ => progressionText style "BitRange"
  | tagged _ v => inner style v

/-- The text of further items and the end of their array. -/
def innerItems (style : Style) : List Value → List Char
  | [] => [']']
  | v :: rest => ',' :: ' ' :: (inner style v ++ innerItems style rest)

/-- The text of further entries and the end of their map. -/
def innerEntries (style : Style) : List (String × Value) → List Char
  | [] => ['}']
  | (name, v) :: rest =>
    ',' :: ' ' :: (Text.quoted name ++ (':' :: ' ' :: (inner style v ++
      innerEntries style rest)))

/-- The text of captured values and the end of their function; what is shared with
others is not shown. -/
def innerCaptured (style : Style) : List (Value ⊕ Nat) → List Char
  | [] => [')']
  | .inl v :: rest => ',' :: ' ' :: (inner style v ++ innerCaptured style rest)
  | .inr _ :: rest => innerCaptured style rest

end

/-- The text of a value on its own. -/
def textWith (style : Style) (v : Value) : String :=
  match v.bare with
  | unit => ""
  | float x => Decimal.text x
  | char c => String.singleton c
  | string s => s
  | function name _ _ => "Fn(" ++ name ++ ")"
  | v => String.ofList (inner style v)

/-- The text of a value that is thrown. -/
def text (v : Value) : String := v.textWith .full

/-- The text of a value that is printed, or joined into a text. -/
def printed (v : Value) : String := v.textWith .short

/-- The text of a value that is looked at closely. -/
def shown (v : Value) : String := String.ofList (v.inner .short)

mutual

/-- The text of a value in an interchange format: the unit is `null`. -/
def interchange : Value → List Char
  | unit => "null".toList
  | map [] => ['{', '}']
  | map ((name, first) :: rest) =>
    '{' :: (Text.quoted name ++ ':' :: (interchange first ++ interchangeEntries rest))
  | tagged _ v => interchange v
  | v => inner .full v

/-- The text of further entries in an interchange format. -/
def interchangeEntries : List (String × Value) → List Char
  | [] => ['}']
  | (name, v) :: rest =>
    ',' :: (Text.quoted name ++ ':' :: (interchange v ++ interchangeEntries rest))

end

end MazeRobot.Script.Value

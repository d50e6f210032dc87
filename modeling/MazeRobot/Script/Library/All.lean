import MazeRobot.Script.Library.Bits
import MazeRobot.Script.Library.Blobs
import MazeRobot.Script.Library.Maps
import MazeRobot.Script.Library.Numbers
import MazeRobot.Script.Library.Ranges

/-!
# The library

All functions that compute a value from values and know nothing else. Some of
them can be read like properties, and some change their first argument.
-/

namespace MazeRobot.Script.Library

/-- Functions on values of any type. -/
def generic (name : String) (arguments : List Value) : Option NativeResult :=
  match name, arguments with
  | "to_string", [v] => some (Native.pure (.string v.printed))
  | "to_string", [] | "to_debug", [] => some (Native.pure (.string ""))
  | "to_debug", [v] => some (Native.pure (.string v.shown))
  | "name", [.function name _ _] => some (Native.pure (.string name))
  | "is_anonymous", [.function name _ _] =>
    some (Native.pure (.bool ("anon$".toList.isPrefixOf name.toList)))
  | "!", [.bool b] => some (Native.pure (.bool !b))
  | "sleep", [.int _] | "sleep", [.float _] => some (Native.pure .unit)
  | _, _ => none

/-- The least tag. -/
def minTag : Int := -2147483648

/-- The greatest tag. -/
def maxTag : Int := 2147483647

/-- A value with a tag in place of the one it has, unless the tag is out of bounds. -/
def retagged (v : Value) (n : Int) : Except Cause Value :=
  let fault (size : String) : Cause :=
    .arithmetic s!"{n} is too {size} to fit into a tag (must be between {minTag} and {maxTag})"
  if n < minTag then .error (fault "small")
  else if maxTag < n then .error (fault "large")
  else .ok (v.withTag n)

/-- Functions that look at a value with its tag. -/
def tags (name : String) (arguments : List Value) : Option NativeResult :=
  match name, arguments with
  | "tag", [v] => some (Native.pure (.int (Int64.ofInt v.tag)))
  | "set_tag", [v, n] =>
    match n.bare with
    | .int n => some ((retagged v n.toInt).bind Native.change)
    | _ => none
  | "take", [v] => some (Native.take v .unit)
  | _, _ => none

/-- The functions that put their last argument into the first one. -/
def storing : List String := ["push", "insert", "pad", "set"]

/-- Arguments without tags, but for one that is stored. -/
def untagged (name : String) (arguments : List Value) : List Value :=
  match arguments with
  | [] => []
  | first :: rest =>
    let all := first.bare :: rest.map Value.bare
    match first.bare, rest.getLast? with
    | .array _, some last | .map _, some last =>
      if storing.contains name then all.dropLast ++ [last] else all
    | _, _ => all

/-- The function of a name for arguments without tags, if there is one. -/
def callUntagged? (limits : Limits) (name : String) (arguments : List Value) :
    Option NativeResult :=
  let particular : Option NativeResult :=
    match arguments with
    | .array _ :: _ => arrays limits name arguments
    | .blob _ :: _ => blobs limits.collectionSize name arguments
    | .map _ :: _ => maps name arguments
    | .range .. :: _ => ranges name arguments
    | .string _ :: _ => strings limits.stringSize name arguments <|> numbers name arguments
    | .char _ :: _ => characters name arguments <|> numbers name arguments
    | _ =>
      numbers name arguments <|> bitFields name arguments <|> ranges name arguments <|>
        newBlobs limits.collectionSize name arguments
  particular <|> generic name arguments

/-- The function of a name for some arguments, if there is one. What it changes keeps its
tag. -/
def call? (limits : Limits) (name : String) (arguments : List Value) : Option NativeResult :=
  let keepingTag (n : Native) : Native :=
    { n with first := n.first.map ((arguments.head?.getD .unit).inPlaceOf) }
  tags name arguments <|>
    (callUntagged? limits name (untagged name arguments)).map fun result => result.map keepingTag

/-- The functions that take their first argument as something to change, by its type. Some
of them leave it as it is, but a constant cannot be passed to them either. -/
def changing (v : Value) : List String :=
  ["take", "set_tag"] ++
    match v.bare with
    | .array _ =>
      ["push", "append", "insert", "pad", "pop", "shift", "remove", "clear", "reverse", "get",
        "set", "truncate", "chop", "splice", "split", "extract", "drain", "retain", "sort",
        "sort_by", "sort_desc", "order", "order_by", "order_desc", "dedup", "for_each"]
    | .blob _ =>
      ["push", "append", "insert", "pad", "pop", "shift", "remove", "clear", "reverse", "get",
        "set", "truncate", "chop", "splice", "split", "extract", "drain", "retain", "write_le",
        "write_be", "write_utf8", "write_ascii", "parse_le_int", "parse_be_int",
        "parse_le_float", "parse_be_float"]
    | .map _ =>
      ["clear", "get", "set", "remove", "mixin", "fill_with", "drain", "retain", "to_json"]
    | .string _ =>
      ["make_upper", "make_lower", "crop", "truncate", "replace", "remove", "trim", "clear", "set",
        "pad", "pop", "append"]
    | .char _ => ["make_upper", "make_lower"]
    | .int _ => ["set_bit", "set_bits"]
    | .range .. => ["contains"]
    | _ => []

/-- Whether a function takes its first argument as something to change. An array's items
are handed to a function with a text for its name in that way only. -/
def mayChange (name : String) (first : Value) (others : List Value) : Bool :=
  (changing first).contains name ||
    match first.bare, others.map Value.bare with
    | .array _, [.string _] => name == "map" || name == "filter"
    | _, _ => false

/-- Whether a function takes its first argument in its place: to change it, or only to look
at it there. -/
def takesPlace (name : String) (first : Value) (others : List Value) : Bool :=
  mayChange name first others || name == "tag" ||
    match first.bare with
    | .string _ => name == "to_debug"
    | .int _ => name == "to_string" || name == "to_debug"
    | _ => false

/-- The functions that can be read like properties, by the type of the value. -/
def readable (v : Value) : List String :=
  "tag" ::
    match v.bare with
    | .array _ | .blob _ => ["len", "is_empty"]
    | .string _ => ["len", "is_empty", "bytes", "chars"]
    | .int _ => ["is_zero", "is_odd", "is_even", "bits"]
    | .float _ =>
      ["is_zero", "floor", "ceiling", "round", "int", "fraction", "is_nan", "is_finite",
        "is_infinite"]
    | .range .. => ["start", "end", "is_inclusive", "is_exclusive", "is_empty"]
    | .function .. => ["name", "is_anonymous"]
    | _ => []

/-- A property that is no entry of a map. -/
def property? (v : Value) (name : String) : Option Value :=
  if (readable v).contains name then
    match call? ⟨0, 0, 0, 0, 0⟩ name [v] with
    | some (.ok native) => some native.value
    | _ => none
  else none

end MazeRobot.Script.Library

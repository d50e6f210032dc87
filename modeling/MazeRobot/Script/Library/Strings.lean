import MazeRobot.Script.Library.Basic
import MazeRobot.Script.Text.Blank
import MazeRobot.Script.Text.Case

/-!
# Texts and characters

Functions on texts. Positions count characters. Functions that a text takes in
place give nothing back.
-/

namespace MazeRobot.Script.Library

/-- A part of a text. -/
def part (s : String) (start count : Int) : String :=
  let cs := s.toList
  let (at_, count) := stretch cs.length start count
  String.ofList ((cs.drop at_).take count)

/-- The position of a text in a text, which begins at a position. -/
def positionOf (needle : List Char) : Nat → List Char → Int
  | at_, [] => if needle.isEmpty then at_ else -1
  | at_, c :: rest =>
    if needle.isPrefixOf (c :: rest) then at_ else positionOf needle (at_ + 1) rest

/-- The position of a text in a text, from a position on. -/
def searchFrom (s needle : String) (start : Int) : Int :=
  let cs := s.toList
  match nearby? cs.length start with
  | some at_ => positionOf needle.toList at_ (cs.drop at_)
  | none => -1

/-- Whether a text holds another one. -/
def holds (s needle : String) : Bool :=
  0 ≤ positionOf needle.toList 0 s.toList

/-- The pieces of a text between separators that are not empty, at most `count`
of them if there is a count. `fuel` is the length of the text. -/
def pieces (separator : List Char) :
    Nat → Option Nat → List Char → List Char → List (List Char)
  | 0, _, piece, rest => [piece.reverse ++ rest]
  | _, some 1, piece, rest => [piece.reverse ++ rest]
  | _, _, piece, [] => [piece.reverse]
  | fuel + 1, count, piece, c :: rest =>
    if separator.isPrefixOf (c :: rest) then
      piece.reverse ::
        pieces separator fuel (count.map (· - 1)) [] ((c :: rest).drop separator.length)
    else pieces separator fuel count (c :: piece) rest

/-- The pieces of a text between the places in front of, between and behind its
characters, at most `count` of them if there is a count. -/
def scattered (count : Option Nat) (cs : List Char) : List (List Char) :=
  let all := [] :: cs.map (fun c => [c]) ++ [[]]
  match count with
  | none => all
  | some n => if all.length ≤ n then all else all.take (n - 1) ++ [(all.drop (n - 1)).flatten]

/-- A text cut at separators. -/
def cut (separator : List Char) (count : Option Nat) (cs : List Char) : List (List Char) :=
  if separator.isEmpty then scattered count cs
  else pieces separator (cs.length + 1) count [] cs

/-- Texts as an array. -/
def texts (all : List (List Char)) : Value :=
  .array (all.map fun cs => Value.string (String.ofList cs)).toArray

/-- The pieces of a text between separators. -/
def split (s separator : String) (count : Option Nat) : Value :=
  if s = "" then texts [[]] else texts (cut separator.toList count s.toList)

/-- The pieces of a text between separators, found from its end. -/
def splitFromEnd (s separator : String) (count : Option Nat) : Value :=
  if s = "" then texts [[]]
  else texts ((cut separator.toList.reverse count s.toList.reverse).map List.reverse)

/-- How many pieces a number asks for: one at least. -/
def pieceCount (n : Int64) : Option Nat :=
  some (max n.toInt.toNat 1)

/-- A text without the blanks at both ends. -/
def trim (s : String) : String :=
  let cs := s.toList.dropWhile Text.isBlank
  String.ofList (cs.reverse.dropWhile Text.isBlank).reverse

/-- The words of a text; the empty text is a word. -/
def words (s : String) : List (List Char) :=
  if s = "" then [[]]
  else
    let (found, last) := s.toList.foldl (fun (found, word) c =>
      if Text.isBlank c then
        if word.isEmpty then (found, word) else (word.reverse :: found, [])
      else (found, c :: word)) (([] : List (List Char)), ([] : List Char))
    (if last.isEmpty then found else last.reverse :: found).reverse

/-- A text with every occurrence of `old` replaced. The empty text occurs in front
of, between and behind all characters of a text that has any. -/
def replaced (s old new : String) : String :=
  if s = "" then "" else String.ofList (new.toList.intercalate (cut old.toList none s.toList))

/-- A text or a character as a text. -/
def text? : Value → Option String
  | .string s => some s
  | .char c => some (String.singleton c)
  | _ => none

/-- The characters that fill a text up to a length. -/
def padding (filler : List Char) (count : Nat) : List Char :=
  match filler with
  | [] => []
  | filler => (List.replicate (count / filler.length + 1) filler).flatten.take count

/-- The text with a character set. -/
def withChar (s : String) (index : Int64) (c : Char) : String :=
  let cs := s.toList
  match position? cs.length index.toInt with
  | some at_ => String.ofList (cs.set at_ c)
  | none => s

/-- The one character that a character becomes, if it is one. -/
def single (before : Char) : List Char → Char
  | [after] => after
  | _ => before

/-- A character of another case. -/
def capital (c : Char) : Char := single c (Text.capitals c)

/-- A character of another case. -/
def small (c : Char) : Char := single c (Text.smalls [] c [])

/-- Functions on characters. -/
def characters (name : String) (arguments : List Value) : Option NativeResult :=
  match name, arguments with
  | "to_upper", [.char c] => some (Native.pure (.char (capital c)))
  | "to_lower", [.char c] => some (Native.pure (.char (small c)))
  | "make_upper", [.char c] => some (Native.change (.char (capital c)))
  | "make_lower", [.char c] => some (Native.change (.char (small c)))
  | _, _ => none

/-- Functions that find something out about a text. -/
def inquiries (name : String) (arguments : List Value) : Option NativeResult :=
  let bool (b : Bool) : Option NativeResult := some (Native.pure (.bool b))
  let int (n : Int) : Option NativeResult := some (Native.pure (.int (Int64.ofInt n)))
  match name, arguments with
  | "len", [.string s] => int s.length
  | "bytes", [.string s] => int s.utf8ByteSize
  | "is_empty", [.string s] => bool s.isEmpty
  | "contains", [.string s, v] => (text? v).bind fun t => bool (holds s t)
  | "starts_with", [.string s, v] => (text? v).bind fun t => bool (t.toList.isPrefixOf s.toList)
  | "ends_with", [.string s, v] => (text? v).bind fun t => bool (t.toList.isSuffixOf s.toList)
  | "index_of", [.string s, v] =>
    (text? v).bind fun t => int (if s = "" then -1 else positionOf t.toList 0 s.toList)
  | "index_of", [.string s, v, .int n] => (text? v).bind fun t => int (searchFrom s t n.toInt)
  | "get", [.string s, .int n] =>
    let cs := s.toList
    match (position? cs.length n.toInt).bind fun at_ => cs[at_]? with
    | some c => some (Native.pure (.char c))
    | none => some (Native.pure .unit)
  | _, _ => none

/-- Functions that take a text apart. -/
def partings (name : String) (arguments : List Value) : Option NativeResult :=
  let ok (v : Value) : Option NativeResult := some (Native.pure v)
  match name, arguments with
  | "split", [.string s] => ok (texts (words s))
  | "split", [.string s, .int n] =>
    let cs := s.toList
    let at_ := if n = 0 then cs.length else insertion cs.length n.toInt
    ok (texts [cs.take at_, cs.drop at_])
  | "split", [.string s, v] => (text? v).bind fun t => ok (split s t none)
  | "split", [.string s, v, .int n] => (text? v).bind fun t => ok (split s t (pieceCount n))
  | "split_rev", [.string s, v] => (text? v).bind fun t => ok (splitFromEnd s t none)
  | "split_rev", [.string s, v, .int n] =>
    (text? v).bind fun t => ok (splitFromEnd s t (pieceCount n))
  | "to_chars", [.string s] => ok (.array (s.toList.map Value.char).toArray)
  | "to_blob", [.string s] => ok (.blob (Text.encoded s))
  | "sub_string", [.string s, .int start] => ok (.string (part s start.toInt s.length))
  | "sub_string", [.string s, .int start, .int count] =>
    ok (.string (part s start.toInt count.toInt))
  | "sub_string", [.string s, .range low high closed] =>
    let (start, count) := span low high closed
    ok (.string (part s start count))
  | "chars", [.string s] => ok (.letters s.toList)
  | "chars", [.string s, .int start] =>
    ok (.letters (part s start.toInt s.length).toList)
  | "chars", [.string s, .int start, .int count] =>
    ok (.letters (part s start.toInt count.toInt).toList)
  | "chars", [.string s, .range low high closed] =>
    let (start, count) := strictSpan low high closed
    ok (.letters (part s start count).toList)
  | "to_upper", [.string s] => ok (.string (Text.upper s))
  | "to_lower", [.string s] => ok (.string (Text.lower s))
  | _, _ => none

/-- Functions that change a text. -/
def changes (limit : Nat) (name : String) (arguments : List Value) : Option NativeResult :=
  let set (s : String) : Option NativeResult := some (Native.change (.string s))
  match name, arguments with
  | "make_upper", [.string s] => set (Text.upper s)
  | "make_lower", [.string s] => set (Text.lower s)
  | "crop", [.string s, .int start] => set (part s start.toInt s.length)
  | "crop", [.string s, .int start, .int count] => set (part s start.toInt count.toInt)
  | "crop", [.string s, .range low high closed] =>
    let (start, count) := span low high closed
    set (part s start count)
  | "truncate", [.string s, .int n] => set (part s 0 n.toInt)
  | "replace", [.string s, a, b] =>
    match text? a, text? b with
    | some a, some b => set (replaced s a b)
    | _, _ => none
  | "remove", [.string s, v] => (text? v).bind fun t => set (Operator.without s t)
  | "trim", [.string s] => set (trim s)
  | "clear", [.string _] => set ""
  | "set", [.string s, .int n, .char c] => set (withChar s n c)
  | "pad", [.string s, .int n, v] =>
    (text? v).bind fun t =>
      let wanted := n.toInt.toNat
      if wanted ≤ s.length then set s
      else if Limits.exceeded limit wanted then some (.error (.tooMuch .string))
      else
        let whole := s ++ String.ofList (padding t.toList (wanted - s.length))
        if Limits.exceeded limit whole.utf8ByteSize then some (.error (.tooMuch .string))
        else set whole
  | "pop", [.string s] =>
    match s.toList.reverse with
    | [] => some (Native.pure .unit)
    | c :: rest => some (Native.take (.char c) (.string (String.ofList rest.reverse)))
  | "pop", [.string s, .int n] =>
    let cs := s.toList
    let kept := cs.length - min n.toInt.toNat cs.length
    some (Native.take (.string (String.ofList (cs.drop kept)))
      (.string (String.ofList (cs.take kept))))
  | "append", [.string s, .blob bytes] => set (s ++ Text.decoded bytes)
  | "append", [.string s, v] => set (s ++ v.printed)
  | _, _ => none

/-- Functions on texts and characters; no text gets longer than a limit. -/
def strings (limit : Nat) (name : String) (arguments : List Value) : Option NativeResult :=
  inquiries name arguments <|> partings name arguments <|> changes limit name arguments <|>
    characters name arguments

end MazeRobot.Script.Library

import MazeRobot.Script.Library.Basic

/-!
# Bits of integers

An integer is a row of 64 bits, the least one first.
-/

namespace MazeRobot.Script.Library

/-- How many bits an integer has. -/
def width : Nat := 64

/-- The word of 64 bits of an integer, as a natural number. -/
def word (n : Int64) : Nat := n.toUInt64.toNat

/-- The integer of a word. -/
def ofWord (n : Nat) : Int64 := Int64.ofNat (n % Nat.pow 2 width)

/-- The bit at a position. -/
def bit (n : Int64) (at_ : Nat) : Bool :=
  word n / Nat.pow 2 at_ % 2 == 1

/-- The integer with some bits from a position on replaced. -/
def withBits (n : Int64) (at_ count : Nat) (bits : Int64) : Int64 :=
  let low := word n % Nat.pow 2 at_
  let middle := word bits % Nat.pow 2 count
  let high := word n / Nat.pow 2 (at_ + count)
  ofWord (low + (middle + high * Nat.pow 2 count) * Nat.pow 2 at_)

/-- The bits from a position on, as an integer. -/
def bitsFrom (n : Int64) (at_ count : Nat) : Int64 :=
  ofWord (word n / Nat.pow 2 at_ % Nat.pow 2 count)

/-- Where bits begin and how many they are; a failure if they begin outside. -/
def field (start count : Int) : Except Cause (Nat × Nat) :=
  match position? width start with
  | some at_ => .ok (at_, min count.toNat (width - at_))
  | none => .error (.bitBounds width (Int64.ofInt start))

/-- The call that reads some bits. -/
def readBits (n : Int64) (start count : Int) : NativeResult :=
  if count ≤ 0 then Native.pure (.int 0)
  else (field start count).bind fun (at_, count) => Native.pure (.int (bitsFrom n at_ count))

/-- The call that writes some bits. -/
def writeBits (n : Int64) (start count : Int) (new : Int64) : NativeResult :=
  if count ≤ 0 then Native.change (.int n)
  else (field start count).bind fun (at_, count) =>
    Native.change (.int (withBits n at_ count new))

/-- The call that goes through some bits. -/
def listBits (n : Int64) (start count : Int) : NativeResult :=
  (field start count).bind fun (at_, count) =>
    Native.pure (.bits ((List.range count).map fun i => bit n (at_ + i)))

/-- The first bit of a range and how many there are; a closed range must end inside. -/
def bitSpan (low high : Int64) (closed : Bool) : Except Cause (Int × Int) :=
  if closed ∧ (width : Int) ≤ high.toInt then .error (.bitBounds width high)
  else .ok (strictSpan low high closed)

/-- Functions on the bits of integers. -/
def bitFields (name : String) (arguments : List Value) : Option NativeResult :=
  match name, arguments with
  | "get_bit", [.int n, .int at_] =>
    some ((field at_.toInt 1).bind fun (at_, _) => Native.pure (.bool (bit n at_)))
  | "set_bit", [.int n, .int at_, .bool b] =>
    some (writeBits n at_.toInt 1 (if b then 1 else 0))
  | "get_bits", [.int n, .int start, .int count] => some (readBits n start.toInt count.toInt)
  | "get_bits", [.int n, .range low high closed] =>
    some ((bitSpan low high closed).bind fun (start, count) => readBits n start count)
  | "set_bits", [.int n, .int start, .int count, .int new] =>
    some (writeBits n start.toInt count.toInt new)
  | "set_bits", [.int n, .range low high closed, .int new] =>
    some ((bitSpan low high closed).bind fun (start, count) => writeBits n start count new)
  | "bits", [.int n] => some (listBits n 0 width)
  | "bits", [.int n, .int start] => some (listBits n start.toInt width)
  | "bits", [.int n, .int start, .int count] => some (listBits n start.toInt count.toInt)
  | "bits", [.int n, .range low high closed] =>
    let (start, count) := strictSpan low high closed
    some (listBits n start count)
  | _, _ => none

end MazeRobot.Script.Library

import MazeRobot.Script.Library.Arrays
import MazeRobot.Script.Text.Decoding

/-!
# Rows of bytes

Functions on bytes. An integer counts as the byte of its last eight bits.
-/

namespace MazeRobot.Script.Library

/-- A byte as an integer. -/
def ofByte (b : UInt8) : Value := .ofNat b.toNat

/-- How the eight bytes of a word follow one another. -/
inductive ByteOrder where
  /-- The least byte comes first. -/
  | little
  /-- The least byte comes last. -/
  | big

/-- The word of up to eight bytes; those that come last are zero if they are
missing. -/
def ByteOrder.word (order : ByteOrder) (bytes : List UInt8) : UInt64 :=
  let eight := bytes.take 8 ++ List.replicate (8 - min bytes.length 8) 0
  let leastLast :=
    match order with
    | little => eight.reverse
    | big => eight
  UInt64.ofNat (leastLast.foldl (fun n b => n * 256 + b.toNat) 0)

/-- The eight bytes of a word. -/
def ByteOrder.bytes (order : ByteOrder) (word : UInt64) : List UInt8 :=
  let leastFirst := (List.range 8).map fun at_ => UInt8.ofNat (word.toNat / Nat.pow 256 at_)
  match order with
  | little => leastFirst
  | big => leastFirst.reverse

/-- The word of a number. -/
def wordOf? : Value → Option UInt64
  | .int n => some n.toUInt64
  | .float x => some x.toBits
  | _ => none

/-- The bytes with others written over those of a stretch. -/
def overwritten (bytes : Array UInt8) (start count : Int) (new : List UInt8) : Array UInt8 :=
  let (at_, count) := stretch bytes.size start count
  let new := (new.take count).toArray
  bytes.extract 0 at_ ++ new ++ bytes.extract (at_ + new.size) bytes.size

/-- The bytes of a number or a text that a function of a name writes. -/
def written? (name : String) (v : Value) : Option (List UInt8) :=
  match name, v with
  | "write_le", v => (wordOf? v).map ByteOrder.little.bytes
  | "write_be", v => (wordOf? v).map ByteOrder.big.bytes
  | "write_utf8", .string s => some (Text.encoded s).toList
  | "write_ascii", .string s => some ((s.toList.filter (·.toNat < 128)).map fun c => c.toUInt8)
  | _, _ => none

/-- The number that a function of a name reads from some bytes. -/
def parsed? (name : String) (bytes : Array UInt8) : Option Value :=
  let little := ByteOrder.little.word bytes.toList
  let big := ByteOrder.big.word bytes.toList
  match name with
  | "parse_le_int" => some (.int little.toInt64)
  | "parse_be_int" => some (.int big.toInt64)
  | "parse_le_float" => some (.float (Float.ofBits little))
  | "parse_be_float" => some (.float (Float.ofBits big))
  | _ => none

/-- The limit that a row of bytes is beyond if so many are added to it. -/
def tooLong? (limit length more : Nat) : Option Limit :=
  if Limits.exceeded limit (length + more) then some .array else none

/-- New rows of bytes. -/
def newBlobs (limit : Nat) (name : String) (arguments : List Value) : Option NativeResult :=
  let filled (n : Int64) (b : UInt8) : Option NativeResult :=
    match padded (tooLong? limit 0) (#[] : Array UInt8) n b with
    | .ok bytes => some (Native.pure (.blob bytes))
    | .error c => some (.error c)
  match name, arguments with
  | "blob", [] => some (Native.pure (.blob #[]))
  | "blob", [.int n] => filled n 0
  | "blob", [.int n, .int b] => filled n (Operator.byte b)
  | _, _ => none

/-- Functions that find something out about a row of bytes. -/
def blobInquiries (name : String) (arguments : List Value) : Option NativeResult :=
  let ok (v : Value) : Option NativeResult := some (Native.pure v)
  match name, arguments with
  | "len", [.blob a] => ok (.ofNat a.size)
  | "is_empty", [.blob a] => ok (.bool a.isEmpty)
  | "to_array", [.blob a] => ok (.array (a.map ofByte))
  | "as_string", [.blob a] => ok (.string (Text.decoded a))
  | "get", [.blob a, .int n] => ok (((itemNear? a n).map ofByte).getD (.int 0))
  | "contains", [.blob a, .int n] => ok (.bool (a.contains (Operator.byte n)))
  | "extract", [.blob a, .int start] => ok (.blob (extract a start.toInt a.size))
  | "extract", [.blob a, .int start, .int count] => ok (.blob (extract a start.toInt count.toInt))
  | "extract", [.blob a, .range low high closed] =>
    let (start, count) := span low high closed
    ok (.blob (extract a start count))
  | name, [.blob a, .int start, .int count] =>
    (parsed? name (extract a start.toInt count.toInt)).bind ok
  | name, [.blob a, .range low high closed] =>
    let (start, count) := span low high closed
    (parsed? name (extract a start count)).bind ok
  | _, _ => none

/-- The bytes with a stretch replaced. In place of no byte at all others come last. -/
def spliced (bytes : Array UInt8) (start count : Int) (others : Array UInt8) : Array UInt8 :=
  if (stretch bytes.size start count).2 = 0 then bytes ++ others
  else splice bytes start count others

/-- The bytes outside of a stretch, and those that are kept. Only a stretch that is asked for
without any length keeps all of them. -/
def retainedBytes (bytes : Array UInt8) (start count : Int) : Array UInt8 × Array UInt8 :=
  if count ≤ 0 then (#[], bytes) else (parted bytes start count).swap

/-- Functions that change a row of bytes; it gets no longer than a limit by
them. -/
def blobChanges (limit : Nat) (name : String) (arguments : List Value) : Option NativeResult :=
  let set (a : Array UInt8) : Option NativeResult := some (Native.change (.blob a))
  let parts (taken kept : Array UInt8) : Option NativeResult :=
    some (Native.take (.blob taken) (.blob kept))
  match name, arguments with
  | "push", [.blob a, .int n] | "append", [.blob a, .int n] => set (a.push (Operator.byte n))
  | "append", [.blob a, .blob b] => set (a ++ b)
  | "append", [.blob a, .string s] => set (a ++ Text.encoded s)
  | "append", [.blob a, .char c] => set (a ++ Text.encoded (String.singleton c))
  | "insert", [.blob a, .int n, .int b] => set (inserted a n (Operator.byte b))
  | "pad", [.blob a, .int n, .int b] =>
    match padded (tooLong? limit a.size) a n (Operator.byte b) with
    | .ok a => set a
    | .error c => some (.error c)
  | "pop", [.blob a] => some (Native.take ((a.back?.map ofByte).getD (.int 0)) (.blob a.pop))
  | "shift", [.blob a] =>
    some (Native.take ((a[0]?.map ofByte).getD (.int 0)) (.blob (a.extract 1 a.size)))
  | "remove", [.blob a, .int n] =>
    match removed? a n with
    | some (b, rest) => some (Native.take (ofByte b) (.blob rest))
    | none => some (Native.pure (.int 0))
  | "clear", [.blob _] => set #[]
  | "reverse", [.blob a] => set a.reverse
  | "set", [.blob a, .int n, .int b] => set (withItem a n (Operator.byte b))
  | "truncate", [.blob a, .int n] => set (truncated a n)
  | "chop", [.blob a, .int n] => set (chopped a n)
  | "splice", [.blob a, .int start, .int count, .blob b] =>
    set (spliced a start.toInt count.toInt b)
  | "splice", [.blob a, .range low high closed, .blob b] =>
    let (start, count) := span low high closed
    set (spliced a start count b)
  | "split", [.blob a, .int n] =>
    let (front, back) := cleft a n
    parts back front
  | "drain", [.blob a, .int start, .int count] =>
    let (taken, kept) := parted a start.toInt count.toInt
    parts taken kept
  | "drain", [.blob a, .range low high closed] =>
    let (start, count) := span low high closed
    let (taken, kept) := parted a start count
    parts taken kept
  | "retain", [.blob a, .int start, .int count] =>
    let (taken, kept) := retainedBytes a start.toInt count.toInt
    parts taken kept
  | "retain", [.blob a, .range low high closed] =>
    let (start, count) := span low high closed
    let (taken, kept) := retainedBytes a start count
    parts taken kept
  | name, [.blob a, .int start, .int count, v] =>
    (written? name v).bind fun new => set (overwritten a start.toInt count.toInt new)
  | name, [.blob a, .range low high closed, v] =>
    let (start, count) := span low high closed
    (written? name v).bind fun new => set (overwritten a start count new)
  | _, _ => none

/-- Functions on rows of bytes. -/
def blobs (limit : Nat) (name : String) (arguments : List Value) : Option NativeResult :=
  blobInquiries name arguments <|> blobChanges limit name arguments

end MazeRobot.Script.Library

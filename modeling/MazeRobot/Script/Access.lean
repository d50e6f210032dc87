import MazeRobot.Script.Library.All

/-!
# Parts of values

Reading and replacing an item of an array, an entry of a map, characters of a
text, bits of an integer or a byte. An index that is negative counts from the
end. Items and entries are parts in place: what changes them changes the whole.
Characters, bits and bytes are made anew, and put back when they are assigned.
-/

namespace MazeRobot.Script

/-- A part of a value. -/
inductive Component where
  /-- An item or an entry in its place. -/
  | inPlace (value : Value)
  /-- Characters, bits or a byte as a value. -/
  | copied (value : Value)
  /-- The place of an entry that a map lacks. -/
  | absent

/-- The value of a part. -/
def Component.value : Component → Value
  | inPlace v | copied v => v
  | absent => .unit

namespace Access

open Library (position? width word ofWord bit withBits bitsFrom)

/-- The wrong type of an index or a new part. -/
def wrongType {α : Type} (v : Value) (wanted : String) : Except Cause α :=
  .error (.wrongType v.longTypeName wanted)

/-- The position at which a range of characters begins. -/
def beginning (length : Nat) (n : Int64) : Except Cause Nat :=
  if 0 ≤ n.toInt then .ok n.toInt.toNat
  else if length = 0 then .ok 0
  else if n.toInt.natAbs ≤ length then .ok (length - n.toInt.natAbs)
  else .error (.stringBounds length n)

/-- The position at which a range of characters ends. -/
def ending (length : Nat) (n : Int64) : Nat :=
  if 0 ≤ n.toInt then n.toInt.toNat else length - n.toInt.natAbs

/-- Where a range of characters begins and where it ends; a closed range ends behind its
last character. -/
def stretchOf (length : Nat) (low high : Int64) (closed : Bool) : Except Cause (Nat × Nat) :=
  (beginning length low).map fun start =>
    (start, if closed then ending length high + 1 else ending length high)

/-- The characters in a range. A closed range of a single character has none. -/
def charactersIn (cs : List Char) (start stop : Nat) (closed : Bool) : List Char :=
  if closed ∧ stop = start + 1 then [] else (cs.drop start).take (stop - start)

/-- Where a range of bits begins and how many they are. An open range ends with the last
bit. -/
def fieldOf (low high : Int64) (closed : Bool) : Except Cause (Nat × Nat) :=
  let last : Int := if closed then width - 1 else width
  if low.toInt < 0 ∨ (width : Int) ≤ low.toInt then .error (.bitBounds width low)
  else if high.toInt < 0 ∨ (last < high.toInt ∧ high ≠ Int64.maxValue) then
    .error (.bitBounds width high)
  else
    let start := low.toInt.toNat
    let stop :=
      if high = Int64.maxValue then width else high.toInt.toNat + (if closed then 1 else 0)
    .ok (start, stop - start)

/-- The part of a value at an index. -/
def part (target index : Value) : Except Cause Component :=
  match target.bare, index.bare with
  | .array items, .int n =>
    match (position? items.size n.toInt).bind fun at_ => items[at_]? with
    | some v => .ok (.inPlace v)
    | none => .error (.arrayBounds items.size n)
  | .blob bytes, .int n =>
    match (position? bytes.size n.toInt).bind fun at_ => bytes[at_]? with
    | some b => .ok (.copied (.ofNat b.toNat))
    | none => .error (.arrayBounds bytes.size n)
  | .map entries, .string name =>
    match Entries.find entries name with
    | some v => .ok (.inPlace v)
    | none => .ok .absent
  | .map _, _ => wrongType index "string"
  | .string s, .int n =>
    let cs := s.toList
    match (position? cs.length n.toInt).bind fun at_ => cs[at_]? with
    | some c => .ok (.copied (.char c))
    | none => .error (.stringBounds cs.length n)
  | .string s, .range low high closed =>
    let cs := s.toList
    (stretchOf cs.length low high closed).map fun (start, stop) =>
      .copied (.string (String.ofList (charactersIn cs start stop closed)))
  | .int whole, .int n =>
    match position? width n.toInt with
    | some at_ => .ok (.copied (.bool (bit whole at_)))
    | none => .error (.bitBounds width n)
  | .int whole, .range low high closed =>
    (fieldOf low high closed).map fun (at_, count) => .copied (.int (bitsFrom whole at_ count))
  | .array _, _ | .blob _, _ | .string _, _ | .int _, _ => wrongType index "i64"
  | _, _ => .error (.noIndexer s!"{target.typeName} [{index.typeName}]")

/-- The value with an item or an entry put in its place. -/
def put (target index v : Value) : Value :=
  target.inPlaceOf <|
    match target.bare, index.bare with
    | .array items, .int n =>
      match position? items.size n.toInt with
      | some at_ => .array (items.setIfInBounds at_ v)
      | none => .array items
    | .map entries, .string name => .map (Entries.put name v entries)
    | whole, _ => whole

/-- The value, which has no tag, with characters, bits or a byte replaced. A character
that is counted from the end is put as far from the beginning. In place of a range of
characters the text of any value is put. -/
def writeBare (target index v : Value) : Except Cause Value :=
  match target, index, v with
  | .blob bytes, .int n, .int b => .ok (.blob (Library.withItem bytes n (Operator.byte b)))
  | .blob _, .int _, v => wrongType v "INT"
  | .string s, .int n, .char c => .ok (.string (String.ofList (s.toList.set n.toInt.natAbs c)))
  | .string _, .int _, v => wrongType v "char"
  | .string s, .range low high closed, v =>
    let cs := s.toList
    (stretchOf cs.length low high closed).map fun (start, stop) =>
      .string (String.ofList (cs.take start ++ v.text.toList ++ cs.drop stop))
  | .int whole, .int n, v =>
    match position? width n.toInt, v with
    | some at_, .bool b => .ok (.int (withBits whole at_ 1 (if b then 1 else 0)))
    | none, _ => .error (.bitBounds width n)
    | _, v => wrongType v "bool"
  | .int whole, .range low high closed, .int bits =>
    (fieldOf low high closed).map fun (at_, count) => .int (withBits whole at_ count bits)
  | .int _, .range .., v => wrongType v "integer"
  | target, _, _ => .ok target

/-- The value with characters, bits or a byte replaced. -/
def write (target index v : Value) : Except Cause Value :=
  (writeBare target.bare index.bare v.bare).map target.inPlaceOf

/-- The part of a constant at an index, which is constant too. -/
def fixedPart (fixed : Option Value) (index : Value) : Option Value :=
  fixed.bind fun whole =>
    match part whole index with
    | .ok (.inPlace v) => some v
    | _ => none

/-- The complaint about a property that cannot be read. -/
def unreadable (target : Value) (name : String) : Cause :=
  .noProperty
    s!"Unknown property '{name}' - a getter is not registered for type '{target.typeName}'"

/-- The complaint about a property that cannot be written. -/
def unwritable (target : Value) (name : String) (v : Value) : Cause :=
  .noProperty
    (s!"No writable property '{name}' - a setter is not registered for type '{target.typeName}'" ++
      s!" to handle '{v.typeName}'")

/-- The complaint about an index that cannot be assigned to. -/
def unassignable (target index v : Value) : Cause :=
  .noIndexer s!"{target.typeName} [{index.typeName}] = {v.typeName}"

/-- A property of a value that is no map. -/
def property (target : Value) (name : String) : Except Cause Value :=
  match Library.property? target name with
  | some v => .ok v
  | none => .error (unreadable target name)

/-- What is put at the place of an entry is found there. -/
theorem part_put_map (entries : Entries) (name : String) (v : Value) :
    part (put (.map entries) (.string name) v) (.string name) = .ok (.inPlace v) := by
  simp [put, part, Value.inPlaceOf, Value.withTag, Value.tag, Value.bare, Entries.find_put]

end Access

end MazeRobot.Script

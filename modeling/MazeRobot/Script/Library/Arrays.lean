import MazeRobot.Script.Library.Basic

/-!
# Arrays

Functions on arrays that call no other function. What is true of arrays of
values is also true of rows of bytes, so that where only positions matter the
functions are on arrays of anything.
-/

namespace MazeRobot.Script.Library

section Positions

variable {α : Type}

/-- A stretch of items. -/
def extract (items : Array α) (start count : Int) : Array α :=
  let (at_, count) := stretch items.size start count
  items.extract at_ (at_ + count)

/-- The items with a stretch replaced. -/
def splice (items : Array α) (start count : Int) (others : Array α) : Array α :=
  let (at_, count) := stretch items.size start count
  items.extract 0 at_ ++ others ++ items.extract (at_ + count) items.size

/-- The items of a stretch, and the others. -/
def parted (items : Array α) (start count : Int) : Array α × Array α :=
  (extract items start count, splice items start count #[])

/-- The items outside of a stretch, and those that are kept. A stretch without any items
keeps all of them. -/
def retained (items : Array α) (start count : Int) : Array α × Array α :=
  if (stretch items.size start count).2 = 0 then (#[], items)
  else (parted items start count).swap

/-- The items in front of a position, and those from it on. -/
def cleft (items : Array α) (index : Int64) : Array α × Array α :=
  let at_ := insertion items.size index.toInt
  (items.extract 0 at_, items.extract at_ items.size)

/-- The items with one more at a position. -/
def inserted (items : Array α) (index : Int64) (item : α) : Array α :=
  let (front, back) := cleft items index
  front ++ #[item] ++ back

/-- An item and the others, if there is an item at a position. -/
def removed? (items : Array α) (index : Int64) : Option (α × Array α) :=
  (position? items.size index.toInt).bind fun at_ =>
    items[at_]?.map fun item => (item, items.extract 0 at_ ++ items.extract (at_ + 1) items.size)

/-- The items with one replaced, if there is one at a position. -/
def withItem (items : Array α) (index : Int64) (item : α) : Array α :=
  match nearby? items.size index.toInt with
  | some at_ => items.setIfInBounds at_ item
  | none => items

/-- The item near a position. -/
def itemNear? (items : Array α) (index : Int64) : Option α :=
  (nearby? items.size index.toInt).bind fun at_ => items[at_]?

/-- The first items. -/
def truncated (items : Array α) (count : Int64) : Array α :=
  items.extract 0 count.toInt.toNat

/-- The last items. -/
def chopped (items : Array α) (count : Int64) : Array α :=
  items.extract (items.size - min count.toInt.toNat items.size) items.size

/-- The items with others behind them, up to a length. `excess?` tells the limit
that so many more items are beyond. -/
def padded (excess? : Nat → Option Limit) (items : Array α) (count : Int64) (item : α) :
    Except Cause (Array α) :=
  let wanted := count.toInt.toNat
  if wanted ≤ items.size then .ok items
  else
    match excess? (wanted - items.size) with
    | some limit => .error (.tooMuch limit)
    | none => .ok (items ++ Array.replicate (wanted - items.size) item)

theorem size_padded {excess? : Nat → Option Limit} {items after : Array α} {count : Int64}
    {item : α} (h : padded excess? items count item = .ok after) :
    after.size = max items.size count.toInt.toNat := by
  simp only [padded] at h
  split at h
  · cases h; omega
  · split at h
    · cases h
    · cases h
      simp only [Array.size_append, Array.size_replicate]
      omega

end Positions

/-- The position of a value among others, the first of which is at `at_`. -/
def indexFrom (v : Value) (at_ : Nat) : List Value → Except Cause Int
  | [] => .ok (-1)
  | w :: rest =>
    match Operator.equal w v with
    | .ok true => .ok at_
    | .ok false => indexFrom v (at_ + 1) rest
    | .error c => .error c

/-- The call that finds a value in an array, from a position on. -/
def indexOf (items : Array Value) (v : Value) (start : Int) : NativeResult :=
  match nearby? items.size start with
  | none => Native.pure (.int (-1))
  | some at_ =>
    match indexFrom v at_ (items.toList.drop at_) with
    | .ok n => Native.pure (.int (Int64.ofInt n))
    | .error c => .error c

/-- The call that asks whether an array holds a value. -/
def contains (items : Array Value) (v : Value) : NativeResult :=
  match indexFrom v 0 items.toList with
  | .ok n => Native.pure (.bool (0 ≤ n))
  | .error c => .error c

/-- Whether a value comes before another one of the same sortable type, or is
equal to it. -/
def before (a b : Value) : Bool :=
  match a.bare, b.bare with
  | .int a, .int b => a ≤ b
  | .float a, .float b => !(b < a)
  | .char a, .char b => a ≤ b
  | .string a, .string b => !(b < a)
  | .bool a, .bool b => !a || b
  | _, _ => true

/-- Whether values of the type of a value can be sorted. -/
def isSortable (v : Value) : Bool :=
  match v.bare with
  | .int _ | .float _ | .char _ | .string _ | .bool _ | .unit => true
  | _ => false

/-- The items of an array, the least first or last. -/
def ordered (items : Array Value) (leastFirst : Bool) : Except Cause (Array Value) :=
  match items.toList with
  | first :: second :: rest =>
    if !(second :: rest).all first.sameType then
      .error (.noFunction "elements of different types cannot be sorted")
    else if !isSortable first then
      .error (.noFunction s!"elements of {first.typeName} cannot be sorted")
    else
      let precedes (a b : Value) : Bool := if leastFirst then before a b else before b a
      .ok ((first :: second :: rest).mergeSort precedes).toArray
  | _ => .ok items

/-- The call that sorts an array. -/
def sorted (items : Array Value) (leastFirst : Bool) : NativeResult :=
  (ordered items leastFirst).map fun all => ⟨.unit, some (.array all)⟩

/-- The call that gives the items of an array in order. -/
def inOrder (items : Array Value) (leastFirst : Bool) : NativeResult :=
  (ordered items leastFirst).map fun all => ⟨.array all, none⟩

/-- A list without the values that equal the one before them; what cannot be
compared differs. -/
def withoutRepeats (last : Value) : List Value → List Value
  | [] => []
  | v :: rest =>
    match Operator.equal last v with
    | .ok true => withoutRepeats last rest
    | _ => v :: withoutRepeats v rest

/-- The call that leaves out the values that equal the one before them. -/
def deduplicated (items : Array Value) : NativeResult :=
  match items.toList with
  | [] => Native.change (.array items)
  | first :: rest => Native.change (.array (first :: withoutRepeats first rest).toArray)

/-- Functions that find something out about an array. -/
def arrayInquiries (name : String) (arguments : List Value) : Option NativeResult :=
  let ok (v : Value) : Option NativeResult := some (Native.pure v)
  match name, arguments with
  | "len", [.array a] => ok (.ofNat a.size)
  | "is_empty", [.array a] => ok (.bool a.isEmpty)
  | "get", [.array a, .int n] => ok ((itemNear? a n).getD .unit)
  | "contains", [.array a, v] => some (contains a v)
  | "order", [.array a] => some (inOrder a true)
  | "order_desc", [.array a] => some (inOrder a false)
  | "index_of", [.array a, v] => some (indexOf a v 0)
  | "index_of", [.array a, v, .int n] => some (indexOf a v n.toInt)
  | "extract", [.array a, .int start] => ok (.array (extract a start.toInt a.size))
  | "extract", [.array a, .int start, .int count] =>
    ok (.array (extract a start.toInt count.toInt))
  | "extract", [.array a, .range low high closed] =>
    let (start, count) := span low high closed
    ok (.array (extract a start count))
  | _, _ => none

/-- The limit that an array is beyond if an item is added to it so many times. -/
def excessWith? (limits : Limits) (items : Array Value) (item : Value) (more : Nat) :
    Option Limit :=
  let all := (Value.array items).size
  let one := item.size
  limits.excess? ⟨all.bytes + more * one.bytes, all.items + more + more * one.items,
    all.entries + more * one.entries⟩

/-- Functions that change an array within limits. -/
def arrayChanges (limits : Limits) (name : String) (arguments : List Value) : Option NativeResult :=
  let set (a : Array Value) : Option NativeResult := some (Native.change (.array a))
  let parts (taken kept : Array Value) : Option NativeResult :=
    some (Native.take (.array taken) (.array kept))
  match name, arguments with
  | "push", [.array a, v] => set (a.push v)
  | "append", [.array a, .array b] => set (a ++ b)
  | "insert", [.array a, .int n, v] => set (inserted a n v)
  | "pad", [.array a, .int n, v] =>
    match padded (excessWith? limits a v) a n v with
    | .ok a => set a
    | .error c => some (.error c)
  | "pop", [.array a] => some (Native.take (a.back?.getD .unit) (.array a.pop))
  | "shift", [.array a] =>
    some (Native.take (a[0]?.getD .unit) (.array (a.extract 1 a.size)))
  | "remove", [.array a, .int n] =>
    match removed? a n with
    | some (item, rest) => some (Native.take item (.array rest))
    | none => some (Native.pure .unit)
  | "clear", [.array _] => set #[]
  | "reverse", [.array a] => set a.reverse
  | "set", [.array a, .int n, v] => set (withItem a n v)
  | "truncate", [.array a, .int n] => set (truncated a n)
  | "chop", [.array a, .int n] => set (chopped a n)
  | "splice", [.array a, .int start, .int count, .array b] =>
    set (splice a start.toInt count.toInt b)
  | "splice", [.array a, .range low high closed, .array b] =>
    let (start, count) := span low high closed
    set (splice a start count b)
  | "split", [.array a, .int n] =>
    let (front, back) := cleft a n
    parts back front
  | "drain", [.array a, .int start, .int count] =>
    let (taken, kept) := parted a start.toInt count.toInt
    parts taken kept
  | "drain", [.array a, .range low high closed] =>
    let (start, count) := span low high closed
    let (taken, kept) := parted a start count
    parts taken kept
  | "retain", [.array a, .int start, .int count] =>
    let (taken, kept) := retained a start.toInt count.toInt
    parts taken kept
  | "retain", [.array a, .range low high closed] =>
    let (start, count) := span low high closed
    let (taken, kept) := retained a start count
    parts taken kept
  | "sort", [.array a] => some (sorted a true)
  | "sort_desc", [.array a] => some (sorted a false)
  | "dedup", [.array a] => some (deduplicated a)
  | _, _ => none

/-- Functions on arrays within limits. -/
def arrays (limits : Limits) (name : String) (arguments : List Value) : Option NativeResult :=
  arrayInquiries name arguments <|> arrayChanges limits name arguments

end MazeRobot.Script.Library

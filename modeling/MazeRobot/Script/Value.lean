/-!
# Values

What a script computes with. Values are copied, never shared; only a variable
that a closure captured is shared, and then the function value knows the
number of its cell. The entries of a map are sorted by their names. A script may
put a tag on a value, a number that goes along with its copies and means nothing
else.
-/

namespace MazeRobot.Script

/-- A value of a script. -/
inductive Value where
  /-- The value of nothing. -/
  | unit
  /-- A truth value. -/
  | bool (value : Bool)
  /-- An integer. -/
  | int (value : Int64)
  /-- A number with a fraction. -/
  | float (value : Float)
  /-- A character. -/
  | char (value : Char)
  /-- A text. -/
  | string (value : String)
  /-- Values in order. -/
  | array (items : Array Value)
  /-- Bytes in order. -/
  | blob (bytes : Array UInt8)
  /-- Named values, sorted by name. -/
  | map (entries : List (String × Value))
  /-- A function: its name, the number of parameters if it stands for a
  function of the script and not for whatever has that name, and the values or
  cells that go before the arguments. -/
  | function (name : String) (arity : Option Nat) (captured : List (Value ⊕ Nat))
  /-- The integers from `low` up to `high`, which is one of them if the range
  is closed. -/
  | range (low high : Int64) (closed : Bool)
  /-- The integers from `first` on, each `step` further, before `limit`. -/
  | steps (first limit step : Int64)
  /-- The numbers from `first` on, each `step` further, before `limit`. -/
  | floatSteps (first limit step : Float)
  /-- Characters to go through. -/
  | letters (text : List Char)
  /-- Bits to go through. -/
  | bits (values : List Bool)
  /-- A value with a tag other than zero. -/
  | tagged (tag : Int) (value : Value)
  deriving Inhabited

/-- Sorted entries. -/
abbrev Entries := List (String × Value)

namespace Value

/-- A value without its tag. -/
def bare : Value → Value
  | tagged _ v => v
  | v => v

/-- The tag of a value. -/
def tag : Value → Int
  | tagged n _ => n
  | _ => 0

/-- A value with a tag in place of the one it has. -/
def withTag (n : Int) (v : Value) : Value :=
  if n = 0 then v.bare else tagged n v.bare

/-- A value that takes the place of another one and its tag. -/
def inPlaceOf (old new : Value) : Value :=
  new.withTag old.tag

theorem bare_bare_withTag (n : Int) (v : Value) : (v.withTag n).bare = v.bare ∨ n = 0 := by
  by_cases h : n = 0
  · exact .inr h
  · exact .inl (by simp [withTag, h, bare])

/-- The name of a type. -/
def typeName : Value → String
  | unit => "()"
  | bool _ => "bool"
  | int _ => "i64"
  | float _ => "f64"
  | char _ => "char"
  | string _ => "string"
  | array _ => "array"
  | blob _ => "blob"
  | map _ => "map"
  | function .. => "Fn"
  | range _ _ false => "range"
  | range _ _ true => "range="
  | steps .. | floatSteps .. | letters _ | bits _ => "range"
  | tagged _ v => v.typeName

/-- The name of a type in a complaint about a value of another type than the
wanted one: ranges have a long one. -/
def longTypeName : Value → String
  | range _ _ false => "core::ops::range::Range<i64>"
  | range _ _ true => "core::ops::range::RangeInclusive<i64>"
  | tagged _ v => v.longTypeName
  | v => v.typeName

/-- The name of a type in the signature of a call. -/
def signatureName : Value → String
  | string _ => "&str | ImmutableString | String"
  | tagged _ v => v.signatureName
  | v => v.typeName

/-- The number of a type: values of different types have different ones. -/
def typeIndex : Value → Nat
  | unit => 0
  | bool _ => 1
  | int _ => 2
  | float _ => 3
  | char _ => 4
  | string _ => 5
  | array _ => 6
  | blob _ => 7
  | map _ => 8
  | function .. => 9
  | range _ _ false => 10
  | range _ _ true => 11
  | steps .. => 12
  | floatSteps .. => 13
  | letters _ => 14
  | bits _ => 15
  | tagged _ v => v.typeIndex

/-- Whether two values are of the same type. -/
def sameType (a b : Value) : Bool :=
  a.typeIndex == b.typeIndex

/-- Whether a value is the unit. -/
def isUnit : Value → Bool
  | unit | tagged _ unit => true
  | _ => false

/-- Whether a value is a map. -/
def isMap : Value → Bool
  | map _ | tagged _ (map _) => true
  | _ => false

/-- Whether a value is the truth. -/
def isTrue : Value → Bool
  | bool b | tagged _ (bool b) => b
  | _ => false

/-- A natural number as an integer. -/
def ofNat (n : Nat) : Value := int (Int64.ofNat n)

/-- How much room a value takes. -/
structure Size where
  /-- The bytes of all texts. -/
  bytes : Nat
  /-- The items of all arrays. -/
  items : Nat
  /-- The entries of all maps. -/
  entries : Nat

/-- The size of nothing. -/
def Size.zero : Size := ⟨0, 0, 0⟩

mutual

/-- The size of a value, added to `total`. -/
def sizeOnto (total : Size) : Value → Size
  | tagged _ v => sizeOnto total v
  | string s => ⟨total.bytes + s.utf8ByteSize, total.items, total.entries⟩
  | array ⟨items⟩ => sizeOfItems total items
  | blob bytes => ⟨total.bytes, total.items + bytes.size, total.entries⟩
  | map entries => sizeOfEntries total entries
  | _ => total

/-- The size of the items of an array, added to `total`. Bytes inside an array count
as one item more than there are. -/
def sizeOfItems (total : Size) : List Value → Size
  | [] => total
  | blob bytes :: rest =>
    sizeOfItems ⟨total.bytes, total.items + 2 + bytes.size, total.entries⟩ rest
  | v :: rest => sizeOfItems (sizeOnto ⟨total.bytes, total.items + 1, total.entries⟩ v) rest

/-- The size of the entries of a map, added to `total`. -/
def sizeOfEntries (total : Size) : List (String × Value) → Size
  | [] => total
  | (_, v) :: rest =>
    sizeOfEntries (sizeOnto ⟨total.bytes, total.items, total.entries + 1⟩ v) rest

end

/-- The size of a value. -/
def size (v : Value) : Size :=
  sizeOnto .zero v

mutual

/-- Whether two values are one and the same: of the same type, and the same
down to the last bit. -/
def identical (a b : Value) : Bool :=
  match a, b.bare with
  | tagged _ a, b => identical a b
  | unit, unit => true
  | bool a, bool b => a == b
  | int a, int b => a == b
  | float a, float b => a.toBits == b.toBits
  | char a, char b => a == b
  | string a, string b => a == b
  | array ⟨as⟩, array ⟨bs⟩ => identicalItems as bs
  | blob a, blob b => a == b
  | map as, map bs => identicalEntries as bs
  | function f _ as, function g _ bs => f == g && identicalCaptured as bs
  | range a b c, range d e f => a == d && b == e && c == f
  | _, _ => false

/-- Whether two lists hold one and the same values. -/
def identicalItems : List Value → List Value → Bool
  | [], [] => true
  | a :: as, b :: bs => identical a b && identicalItems as bs
  | _, _ => false

/-- Whether two lists hold one and the same entries. -/
def identicalEntries : List (String × Value) → List (String × Value) → Bool
  | [], [] => true
  | (s, a) :: as, (t, b) :: bs => s == t && identical a b && identicalEntries as bs
  | _, _ => false

/-- Whether two functions captured one and the same. -/
def identicalCaptured : List (Value ⊕ Nat) → List (Value ⊕ Nat) → Bool
  | [], [] => true
  | .inl a :: as, .inl b :: bs => identical a b && identicalCaptured as bs
  | .inr a :: as, .inr b :: bs => a == b && identicalCaptured as bs
  | _, _ => false

end

end Value

namespace Entries

/-- The value of a name. -/
def find (entries : Entries) (name : String) : Option Value :=
  match entries with
  | [] => none
  | (other, v) :: rest => if other == name then some v else find rest name

/-- The entries with a name set to a value. -/
def put (name : String) (value : Value) : Entries → Entries
  | [] => [(name, value)]
  | (other, v) :: rest =>
    if other == name then (name, value) :: rest
    else if name < other then (name, value) :: (other, v) :: rest
    else (other, v) :: put name value rest

/-- The entries without a name. -/
def erase (name : String) (entries : Entries) : Entries :=
  entries.filter (·.1 != name)

/-- Two maps as one; of two values for a name the second counts. -/
def merge (a b : Entries) : Entries :=
  b.foldl (fun all entry => put entry.1 entry.2 all) a

theorem find_put (name : String) (value : Value) (entries : Entries) :
    find (put name value entries) name = some value := by
  induction entries with
  | nil => simp [put, find]
  | cons entry rest ih =>
    obtain ⟨other, v⟩ := entry
    unfold put
    by_cases h : other = name
    · simp [h, find]
    · by_cases hlt : name < other
      · simp [h, hlt, find]
      · simp [h, hlt, find, ih]

end Entries

end MazeRobot.Script

import MazeRobot.Script.Operator
import MazeRobot.Script.Room

/-!
# What a library function gives

A library function gives a value and possibly a new value of its first
argument, which takes the place of the old one if that was a variable or a part
of one. Indexes count from the end when they are negative.
-/

namespace MazeRobot.Script

/-- What a library function gives. -/
structure Native where
  /-- The value of the call. -/
  value : Value
  /-- The new value of the first argument. -/
  first : Option Value

/-- What a call of a library function comes to. -/
abbrev NativeResult := Except Cause Native

namespace Native

/-- A value, and nothing changes. -/
def pure (v : Value) : NativeResult := .ok ⟨v, none⟩

/-- The unit, and a new first argument. -/
def change (first : Value) : NativeResult := .ok ⟨.unit, some first⟩

/-- A value and a new first argument. -/
def take (value first : Value) : NativeResult := .ok ⟨value, some first⟩

end Native

namespace Library

/-- Where a stretch begins and how long it is, inside `length` items. One that
begins too far in front begins with the first item. -/
def stretch (length : Nat) (start count : Int) : Nat × Nat :=
  let start : Option Nat :=
    if start < 0 then some (length - min start.natAbs length)
    else if start.toNat < length then some start.toNat
    else none
  match start with
  | none => (length, 0)
  | some start => (start, min count.toNat (length - start))

/-- The position of an index. -/
def position? (length : Nat) (index : Int) : Option Nat :=
  if 0 ≤ index then
    if index.toNat < length then some index.toNat else none
  else if index.natAbs ≤ length then some (length - index.natAbs)
  else none

/-- The position of an index; one that is too far in front means the first
item. -/
def nearby? (length : Nat) (index : Int) : Option Nat :=
  if 0 ≤ index then
    if index.toNat < length then some index.toNat else none
  else if length = 0 then none
  else some (length - min index.natAbs length)

/-- Where something is inserted. -/
def insertion (length : Nat) (index : Int) : Nat :=
  if 0 ≤ index then min index.toNat length
  else length - min index.natAbs length

/-- The first position of a range and how many there are. A range that begins in
front of the first position begins there. -/
def span (low high : Int64) (closed : Bool) : Int × Int :=
  let start := max low.toInt 0
  let stop := max high.toInt start
  (start, stop - start + (if closed then 1 else 0))

/-- The first position of a range and how many there are; a closed range that ends right
before its first position has none. -/
def strictSpan (low high : Int64) (closed : Bool) : Int × Int :=
  let start := max low.toInt 0
  if closed then (start, max high.toInt (start - 1) - start + 1)
  else (start, max high.toInt start - start)

theorem position?_lt {length : Nat} {index : Int} {n : Nat}
    (h : position? length index = some n) : n < length := by
  unfold position? at h
  split at h
  · split at h
    · cases h; assumption
    · cases h
  · split at h
    · cases h; omega
    · cases h

theorem nearby?_lt {length : Nat} {index : Int} {n : Nat}
    (h : nearby? length index = some n) : n < length := by
  unfold nearby? at h
  split at h
  · split at h
    · cases h; assumption
    · cases h
  · split at h
    · cases h
    · cases h; omega

end Library

end MazeRobot.Script

import MazeRobot.Store

/-!
# A store in memory

Every pair of a team and a puzzle has at most one entry. Saving never fails.
-/

namespace MazeRobot

/-- Scripts by team and puzzle. -/
structure Shelf where
  /-- The entries, in the order of their first saves. -/
  entries : List ((String × String) × SavedCode)
  deriving DecidableEq, Repr

namespace Shelf

/-- A shelf without entries. -/
def empty : Shelf := ⟨[]⟩

/-- How many entries there are. -/
def size (s : Shelf) : Nat := s.entries.length

/-- Whether there is no entry. -/
def isEmpty (s : Shelf) : Bool := s.entries.isEmpty

/-- The entry of a key. -/
def get? (s : Shelf) (key : String × String) : Option SavedCode :=
  (s.entries.find? (·.1 == key)).map (·.2)

/-- Puts an entry where its key stands, or at the end. -/
def putIn (key : String × String) (saved : SavedCode) :
    List ((String × String) × SavedCode) → List ((String × String) × SavedCode)
  | [] => [(key, saved)]
  | entry :: rest =>
    if entry.1 = key then (key, saved) :: rest else entry :: putIn key saved rest

/-- The shelf with an entry put in. -/
def put (s : Shelf) (key : String × String) (saved : SavedCode) : Shelf :=
  ⟨putIn key saved s.entries⟩

theorem find?_putIn (key other : String × String) (saved : SavedCode)
    (entries : List ((String × String) × SavedCode)) :
    (putIn key saved entries).find? (·.1 == other) =
      if key = other then some (key, saved) else entries.find? (·.1 == other) := by
  induction entries with
  | nil => by_cases h : key = other <;> simp [putIn, h]
  | cons entry rest ih =>
    by_cases hk : entry.1 = key
    · by_cases h : key = other <;> simp [putIn, hk, h]
    · by_cases h : entry.1 = other
      · subst h
        simp [putIn, hk, Ne.symm hk]
      · simp [putIn, hk, ih, h]

/-- What was put in is found, and nothing else changed. -/
theorem get?_put (s : Shelf) (key other : String × String) (saved : SavedCode) :
    (s.put key saved).get? other = if key = other then some saved else s.get? other := by
  simp only [get?, put, find?_putIn]
  split <;> rfl

end Shelf

namespace Store

/-- The store in memory. -/
def inMemory : Store Shelf where
  load shelf puzzle team := .ok (shelf.get? (team, puzzle))
  save shelf puzzle team code :=
    let saved : SavedCode := ⟨code, nextRevision (shelf.get? (team, puzzle))⟩
    (shelf.put (team, puzzle) saved, .ok saved)

end Store

end MazeRobot

/-!
# Time spans

A span is a natural number of nanoseconds, and differences stop at zero. A clock
counts no further than the longest span, of which the whole seconds fill a 64-bit
word. Milliseconds that are kept in such a word saturate there.
-/

namespace MazeRobot

/-- A span of time. -/
structure Span where
  /-- Its length in nanoseconds. -/
  nanos : Nat
  deriving DecidableEq, Repr, Inhabited

namespace Span

/-- No time at all. -/
def zero : Span := ⟨0⟩

/-- The longest span that a clock counts. -/
def longest : Span := ⟨18446744073709551615999999999⟩

/-- A span of so many milliseconds. -/
def ofMillis (ms : Nat) : Span := ⟨ms * 1000000⟩

/-- The whole milliseconds of a span. -/
def millis (s : Span) : Nat := s.nanos / 1000000

/-- The whole milliseconds of a span, at most the largest 64-bit word. -/
def millisWord (s : Span) : UInt64 :=
  UInt64.ofNat (min s.millis 18446744073709551615)

/-- The whole seconds of a span. -/
def seconds (s : Span) : Nat := s.nanos / 1000000000

/-- The nanoseconds beyond the whole seconds. -/
def subsecond (s : Span) : Nat := s.nanos % 1000000000

/-- Both spans, one after the other. -/
def add (s t : Span) : Span := ⟨s.nanos + t.nanos⟩

/-- Both spans, one after the other, if a clock counts so far. -/
def add? (s t : Span) : Option Span :=
  if longest.nanos < s.nanos + t.nanos then none else some (s.add t)

/-- What is left of a span after another one. -/
def sub (s t : Span) : Span := ⟨s.nanos - t.nanos⟩

/-- The longer of two spans. -/
def max (s t : Span) : Span := ⟨Nat.max s.nanos t.nanos⟩

/-- Whether a span has no length. -/
def isZero (s : Span) : Bool := s.nanos == 0

/-- The longest span fills its words. -/
theorem longest_eq : longest.seconds = 18446744073709551615 ∧ longest.subsecond = 999999999 := by
  decide

theorem add?_eq_none_iff (s t : Span) : s.add? t = none ↔ longest.nanos < s.nanos + t.nanos := by
  simp [add?]

theorem add?_of_le {s t : Span} (h : s.nanos + t.nanos ≤ longest.nanos) :
    s.add? t = some (s.add t) :=
  if_neg (Nat.not_lt.mpr h)

theorem millis_ofMillis (ms : Nat) : (ofMillis ms).millis = ms := by
  simp [ofMillis, millis]

end Span

end MazeRobot

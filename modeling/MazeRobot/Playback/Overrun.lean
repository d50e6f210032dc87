import MazeRobot.Playback

/-!
# Clocks that overrun

While a playback is playing, its clock counts the time since the latest record, and it
counts no further than the longest span there is. Who lets more time go by than that
never gets an answer, so there is no playback afterwards. All else is as if the clock
went on for ever.
-/

namespace MazeRobot.Playback

/-- Lets time go by, unless the clock overruns. -/
def advance? (p : Playback) (elapsed : Span) : Option Change :=
  let c := p.advanceCelebration elapsed
  if c.1.state = .playing then
    (c.1.waited.add? elapsed).map fun waited =>
      c.andThen fun p => { p with waited := waited }.elapseAll (p.remaining + 1)
  else some c

/-- What an operation leads to, unless the clock overruns. -/
def perform? (p : Playback) : Operation → Option Change
  | .advance elapsed => p.advance? elapsed
  | op => some (p.perform op)

/-- What operations lead to, one after the other, unless the clock overruns. -/
def performAll? : List Operation → Playback → Option Change
  | [], p => some (p, [])
  | op :: rest, p =>
    (p.perform? op).bind fun c => (performAll? rest c.1).map fun d => (d.1, c.2 ++ d.2)

end MazeRobot.Playback

import MazeRobot.Script.Limits
import MazeRobot.Span

/-!
# Configuration

The limits of every run, the pace of a playback and the patience of an
autosave. Each field has a default; a command line may override three of them.
-/

namespace MazeRobot

/-- The limits on every run of a script. -/
structure EngineConfig where
  /-- How many moves and turns the robot may make. -/
  maxSteps : UInt32 := 1000
  /-- How often the script is asked what to do next. -/
  maxTicks : UInt32 := 1000
  /-- How many steps of evaluation each phase may take. -/
  maxOperations : UInt64 := 250000
  /-- How deep calls may nest. -/
  maxCallLevels : UInt64 := 48
  /-- How deep terms may nest. -/
  maxExprDepth : UInt64 := 64
  /-- How many bytes a text may have. -/
  maxStringSize : UInt64 := 4096
  /-- How many items an array or a map may have. -/
  maxCollectionSize : UInt64 := 10000
  deriving DecidableEq, Repr

/-- The limits on the script itself. -/
def EngineConfig.limits (c : EngineConfig) : Script.Limits where
  operations := c.maxOperations.toNat
  callLevels := c.maxCallLevels.toNat
  depth := c.maxExprDepth.toNat
  stringSize := c.maxStringSize.toNat
  collectionSize := c.maxCollectionSize.toNat

/-- The pace of a playback, in milliseconds. -/
structure PlaybackConfig where
  /-- The wanted delay between two records. -/
  delay : UInt64 := 300
  /-- One end of the range of delays. -/
  minDelay : UInt64 := 50
  /-- The other end. -/
  maxDelay : UInt64 := 1000
  /-- How long a success is celebrated. -/
  celebration : UInt64 := 5000
  deriving DecidableEq, Repr

namespace PlaybackConfig

/-- A number of milliseconds brought into the range of delays, whichever way
round its ends are given. -/
def clamp (c : PlaybackConfig) (ms : UInt64) : UInt64 :=
  let low := min c.minDelay c.maxDelay
  let high := max c.minDelay c.maxDelay
  min (max ms low) high

/-- The span of a number of milliseconds brought into the range of delays. -/
def clampDelay (c : PlaybackConfig) (ms : UInt64) : Span :=
  .ofMillis (c.clamp ms).toNat

/-- The delay to play at. -/
def delaySpan (c : PlaybackConfig) : Span :=
  c.clampDelay c.delay

/-- How long a success is celebrated. -/
def celebrationSpan (c : PlaybackConfig) : Span :=
  .ofMillis c.celebration.toNat

end PlaybackConfig

/-- The patience of an autosave. -/
structure AutosaveConfig where
  /-- How many milliseconds must pass without an edit. -/
  debounce : UInt64 := 2000
  deriving DecidableEq, Repr

/-- How long an autosave waits after an edit. -/
def AutosaveConfig.debounceSpan (c : AutosaveConfig) : Span :=
  .ofMillis c.debounce.toNat

/-- The whole configuration. -/
structure Config where
  /-- The limits of runs. -/
  engine : EngineConfig := {}
  /-- The pace of playbacks. -/
  playback : PlaybackConfig := {}
  /-- The patience of autosaves. -/
  autosave : AutosaveConfig := {}
  deriving DecidableEq, Repr

/-- Values that take the place of configured ones. -/
structure Overrides where
  /-- The delay in milliseconds. -/
  delay : Option UInt64 := none
  /-- The step budget. -/
  maxSteps : Option UInt32 := none
  /-- The tick budget. -/
  maxTicks : Option UInt32 := none
  deriving DecidableEq, Repr

namespace Overrides

/-- Whether nothing is overridden. -/
def isEmpty (o : Overrides) : Bool :=
  o.delay.isNone && o.maxSteps.isNone && o.maxTicks.isNone

/-- The names of what is overridden. -/
def names (o : Overrides) : List String :=
  (if o.delay.isSome then ["delay"] else []) ++
    (if o.maxSteps.isSome then ["max_steps"] else []) ++
    (if o.maxTicks.isSome then ["max_ticks"] else [])

end Overrides

/-- A configuration with some values overridden. -/
def Config.overriddenBy (c : Config) (o : Overrides) : Config where
  engine := { c.engine with
    maxSteps := o.maxSteps.getD c.engine.maxSteps
    maxTicks := o.maxTicks.getD c.engine.maxTicks }
  playback := { c.playback with delay := o.delay.getD c.playback.delay }
  autosave := c.autosave

/-- Overriding nothing changes nothing. -/
theorem Config.overriddenBy_empty (c : Config) : c.overriddenBy {} = c := rfl

end MazeRobot

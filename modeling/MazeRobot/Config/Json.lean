import MazeRobot.Config
import MazeRobot.Json.Decode

/-!
# Configurations as JSON

Every field may be left out, and then has its default; the sections may be
left out as a whole. Writing leaves nothing out.
-/

namespace MazeRobot

namespace EngineConfig

/-- The limits as an object. -/
def toJson (c : EngineConfig) : Json :=
  .object [
    ("max_steps", .number c.maxSteps.toNat),
    ("max_ticks", .number c.maxTicks.toNat),
    ("max_operations", .number c.maxOperations.toNat),
    ("max_call_levels", .number c.maxCallLevels.toNat),
    ("max_expr_depth", .number c.maxExprDepth.toNat),
    ("max_string_size", .number c.maxStringSize.toNat),
    ("max_collection_size", .number c.maxCollectionSize.toNat)]

/-- Limits under construction. -/
structure Draft where
  /-- The step budget. -/
  maxSteps : Option UInt32 := none
  /-- The tick budget. -/
  maxTicks : Option UInt32 := none
  /-- The steps of evaluation. -/
  maxOperations : Option UInt64 := none
  /-- The nesting of calls. -/
  maxCallLevels : Option UInt64 := none
  /-- The nesting of terms. -/
  maxExprDepth : Option UInt64 := none
  /-- The bytes of a text. -/
  maxStringSize : Option UInt64 := none
  /-- The items of an array or a map. -/
  maxCollectionSize : Option UInt64 := none

/-- The limits of a draft, with defaults for what it lacks. -/
def Draft.filled (d : Draft) : EngineConfig :=
  let preset : EngineConfig := {}
  { maxSteps := d.maxSteps.getD preset.maxSteps
    maxTicks := d.maxTicks.getD preset.maxTicks
    maxOperations := d.maxOperations.getD preset.maxOperations
    maxCallLevels := d.maxCallLevels.getD preset.maxCallLevels
    maxExprDepth := d.maxExprDepth.getD preset.maxExprDepth
    maxStringSize := d.maxStringSize.getD preset.maxStringSize
    maxCollectionSize := d.maxCollectionSize.getD preset.maxCollectionSize }

/-- Reads limits. -/
def decode : Decoder EngineConfig :=
  Decoder.record (σ := Draft)
    [Decoder.field "max_steps" Draft.maxSteps (fun d v => { d with maxSteps := some v })
       Decoder.uint32,
     Decoder.field "max_ticks" Draft.maxTicks (fun d v => { d with maxTicks := some v })
       Decoder.uint32,
     Decoder.field "max_operations" Draft.maxOperations
       (fun d v => { d with maxOperations := some v }) Decoder.uint64,
     Decoder.field "max_call_levels" Draft.maxCallLevels
       (fun d v => { d with maxCallLevels := some v }) Decoder.uint64,
     Decoder.field "max_expr_depth" Draft.maxExprDepth
       (fun d v => { d with maxExprDepth := some v }) Decoder.uint64,
     Decoder.field "max_string_size" Draft.maxStringSize
       (fun d v => { d with maxStringSize := some v }) Decoder.uint64,
     Decoder.field "max_collection_size" Draft.maxCollectionSize
       (fun d v => { d with maxCollectionSize := some v }) Decoder.uint64]
    {} fun d => some d.filled

end EngineConfig

namespace PlaybackConfig

/-- The pace as an object. -/
def toJson (c : PlaybackConfig) : Json :=
  .object [
    ("delay_ms", .number c.delay.toNat),
    ("min_delay_ms", .number c.minDelay.toNat),
    ("max_delay_ms", .number c.maxDelay.toNat),
    ("celebration_ms", .number c.celebration.toNat)]

/-- A pace under construction. -/
structure Draft where
  /-- The wanted delay. -/
  delay : Option UInt64 := none
  /-- One end of the range. -/
  minDelay : Option UInt64 := none
  /-- The other end. -/
  maxDelay : Option UInt64 := none
  /-- The length of a celebration. -/
  celebration : Option UInt64 := none

/-- The pace of a draft, with defaults for what it lacks. -/
def Draft.filled (d : Draft) : PlaybackConfig :=
  let preset : PlaybackConfig := {}
  { delay := d.delay.getD preset.delay
    minDelay := d.minDelay.getD preset.minDelay
    maxDelay := d.maxDelay.getD preset.maxDelay
    celebration := d.celebration.getD preset.celebration }

/-- Reads a pace. -/
def decode : Decoder PlaybackConfig :=
  Decoder.record (σ := Draft)
    [Decoder.field "delay_ms" Draft.delay (fun d v => { d with delay := some v })
       Decoder.uint64,
     Decoder.field "min_delay_ms" Draft.minDelay (fun d v => { d with minDelay := some v })
       Decoder.uint64,
     Decoder.field "max_delay_ms" Draft.maxDelay (fun d v => { d with maxDelay := some v })
       Decoder.uint64,
     Decoder.field "celebration_ms" Draft.celebration
       (fun d v => { d with celebration := some v }) Decoder.uint64]
    {} fun d => some d.filled

end PlaybackConfig

namespace AutosaveConfig

/-- The patience as an object. -/
def toJson (c : AutosaveConfig) : Json :=
  .object [("debounce_ms", .number c.debounce.toNat)]

/-- Reads a patience. -/
def decode : Decoder AutosaveConfig :=
  Decoder.record (σ := Option UInt64)
    [Decoder.field "debounce_ms" (fun d => d) (fun _ v => some v) Decoder.uint64]
    none fun d => some { debounce := d.getD ({} : AutosaveConfig).debounce }

end AutosaveConfig

namespace Config

/-- The configuration as an object. -/
def toJson (c : Config) : Json :=
  .object [
    ("engine", c.engine.toJson),
    ("playback", c.playback.toJson),
    ("autosave", c.autosave.toJson)]

/-- A configuration under construction. -/
structure Draft where
  /-- The limits of runs. -/
  engine : Option EngineConfig := none
  /-- The pace of playbacks. -/
  playback : Option PlaybackConfig := none
  /-- The patience of autosaves. -/
  autosave : Option AutosaveConfig := none

/-- Reads a configuration. -/
def decode : Decoder Config :=
  Decoder.record (σ := Draft)
    [Decoder.field "engine" Draft.engine (fun d v => { d with engine := some v })
       EngineConfig.decode,
     Decoder.field "playback" Draft.playback (fun d v => { d with playback := some v })
       PlaybackConfig.decode,
     Decoder.field "autosave" Draft.autosave (fun d v => { d with autosave := some v })
       AutosaveConfig.decode]
    {} fun d => some {
      engine := d.engine.getD {}
      playback := d.playback.getD {}
      autosave := d.autosave.getD {} }

end Config

end MazeRobot

import MazeRobot.Config.File
import MazeRobot.Proofs.Arguments
import MazeRobot.Proofs.Records

/-!
# Where each setting comes from

Every setting of a configuration that was read is that of the file, or else its
default, whatever sections and fields the file leaves out. On the command line, the
last value for one of three settings goes before.
-/

namespace MazeRobot

namespace Decoder

section Words

theorem eq_number_of_intBetween {low high n : Int} {s : Scan} (h : intBetween low high s = .ok n) :
    s = .number (.whole n) ∧ low ≤ n ∧ n ≤ high := by
  unfold intBetween at h
  split at h
  next value =>
    split at h
    next hrange =>
      obtain rfl := Except.ok.inj h
      exact ⟨rfl, hrange⟩
    next => cases h
  next => cases h

theorem eq_number_of_uint32 {s : Scan} {n : UInt32} (h : uint32 s = .ok n) :
    s = .number (.whole n.toNat) := by
  unfold uint32 at h
  split at h
  next value hvalue =>
    obtain ⟨hs, hlow, hhigh⟩ := eq_number_of_intBetween hvalue
    obtain rfl := Except.ok.inj h
    have hlt : value.toNat < 2 ^ 32 := by omega
    rw [UInt32.toNat_ofNat_of_lt' hlt, Int.toNat_of_nonneg hlow]
    exact hs
  next => cases h

theorem eq_number_of_uint64 {s : Scan} {n : UInt64} (h : uint64 s = .ok n) :
    s = .number (.whole n.toNat) := by
  unfold uint64 at h
  split at h
  next value hvalue =>
    obtain ⟨hs, hlow, hhigh⟩ := eq_number_of_intBetween hvalue
    obtain rfl := Except.ok.inj h
    have hlt : value.toNat < 2 ^ 64 := by omega
    rw [UInt64.toNat_ofNat_of_lt' hlt, Int.toNat_of_nonneg hlow]
    exact hs
  next => cases h

/-- A number that stands somewhere, and else is preset. -/
def NumberOr (held : Option Scan) (n preset : Nat) : Prop :=
  match held with
  | some s => s = .number (.whole n)
  | none => n = preset

theorem NumberOr.unique {held : Option Scan} {n m preset : Nat} (hn : NumberOr held n preset)
    (hm : NumberOr held m preset) : n = m := by
  cases held with
  | none => exact hn.trans hm.symm
  | some s => exact Int.ofNat_inj.mp (Numeral.whole.inj (Scan.number.inj (hn.symm.trans hm)))

theorem ReadOr.number_uint32 {held : Option Scan} {value preset : UInt32}
    (h : ReadOr uint32 held value preset) : NumberOr held value.toNat preset.toNat := by
  cases held with
  | none => exact congrArg UInt32.toNat h
  | some s => exact eq_number_of_uint32 h

theorem ReadOr.number_uint64 {held : Option Scan} {value preset : UInt64}
    (h : ReadOr uint64 held value preset) : NumberOr held value.toNat preset.toNat := by
  cases held with
  | none => exact congrArg UInt64.toNat h
  | some s => exact eq_number_of_uint64 h

/-- A number of a section stands there if the section does. -/
theorem ReadOr.number {β : Type} {decode : Decoder β} {s : Scan} {part field : Slot}
    {value preset : β} (h : ReadOr decode (s.slot? part) value preset) (n : β → Nat)
    (hfield : ∀ t, decode t = .ok value → NumberOr (t.slot? field) (n value) (n preset)) :
    NumberOr ((s.slot? part).bind (·.slot? field)) (n value) (n preset) := by
  cases hslot : s.slot? part with
  | none =>
    rw [hslot] at h
    exact congrArg n h
  | some t =>
    rw [hslot] at h
    exact hfield t h

end Words

end Decoder

/-- The settings of the limits of runs. -/
inductive EngineSetting where
  | maxSteps | maxTicks | maxOperations | maxCallLevels | maxExprDepth | maxStringSize
  | maxCollectionSize

namespace EngineSetting

/-- The field for a setting. -/
def slot : EngineSetting → Slot
  | maxSteps => ⟨0, "max_steps"⟩
  | maxTicks => ⟨1, "max_ticks"⟩
  | maxOperations => ⟨2, "max_operations"⟩
  | maxCallLevels => ⟨3, "max_call_levels"⟩
  | maxExprDepth => ⟨4, "max_expr_depth"⟩
  | maxStringSize => ⟨5, "max_string_size"⟩
  | maxCollectionSize => ⟨6, "max_collection_size"⟩

/-- Its number. -/
def of : EngineSetting → EngineConfig → Nat
  | maxSteps, c => c.maxSteps.toNat
  | maxTicks, c => c.maxTicks.toNat
  | maxOperations, c => c.maxOperations.toNat
  | maxCallLevels, c => c.maxCallLevels.toNat
  | maxExprDepth, c => c.maxExprDepth.toNat
  | maxStringSize, c => c.maxStringSize.toNat
  | maxCollectionSize, c => c.maxCollectionSize.toNat

open Decoder in
theorem numberOr_of_decode {s : Scan} {c : EngineConfig} (h : EngineConfig.decode s = .ok c)
    (x : EngineSetting) : NumberOr (s.slot? x.slot) (x.of c) (x.of {}) := by
  cases x with
  | maxSteps | maxTicks =>
    refine ReadOr.number_uint32 ?_
    exact readOr_record h ⟨rfl, by decide, fun _ _ => rfl, by simp [spares_field, slot]⟩ rfl
      fun _ => rfl
  | _ =>
    refine ReadOr.number_uint64 ?_
    exact readOr_record h ⟨rfl, by decide, fun _ _ => rfl, by simp [spares_field, slot]⟩ rfl
      fun _ => rfl

/-- The settings are all that there is to the limits. -/
theorem ext_of {c d : EngineConfig} (h : ∀ x : EngineSetting, x.of c = x.of d) : c = d := by
  cases c
  cases d
  rw [EngineConfig.mk.injEq]
  exact ⟨UInt32.toNat_inj.mp (h .maxSteps), UInt32.toNat_inj.mp (h .maxTicks),
    UInt64.toNat_inj.mp (h .maxOperations), UInt64.toNat_inj.mp (h .maxCallLevels),
    UInt64.toNat_inj.mp (h .maxExprDepth), UInt64.toNat_inj.mp (h .maxStringSize),
    UInt64.toNat_inj.mp (h .maxCollectionSize)⟩

end EngineSetting

/-- The settings of the pace of playbacks. -/
inductive PlaybackSetting where
  | delay | minDelay | maxDelay | celebration

namespace PlaybackSetting

/-- The field for a setting. -/
def slot : PlaybackSetting → Slot
  | delay => ⟨0, "delay_ms"⟩
  | minDelay => ⟨1, "min_delay_ms"⟩
  | maxDelay => ⟨2, "max_delay_ms"⟩
  | celebration => ⟨3, "celebration_ms"⟩

/-- Its number. -/
def of : PlaybackSetting → PlaybackConfig → Nat
  | delay, c => c.delay.toNat
  | minDelay, c => c.minDelay.toNat
  | maxDelay, c => c.maxDelay.toNat
  | celebration, c => c.celebration.toNat

open Decoder in
theorem numberOr_of_decode {s : Scan} {c : PlaybackConfig} (h : PlaybackConfig.decode s = .ok c)
    (x : PlaybackSetting) : NumberOr (s.slot? x.slot) (x.of c) (x.of {}) := by
  cases x <;>
    refine ReadOr.number_uint64 ?_ <;>
    exact readOr_record h ⟨rfl, by decide, fun _ _ => rfl, by simp [spares_field, slot]⟩ rfl
      fun _ => rfl

/-- The settings are all that there is to the pace. -/
theorem ext_of {c d : PlaybackConfig} (h : ∀ x : PlaybackSetting, x.of c = x.of d) : c = d := by
  cases c
  cases d
  rw [PlaybackConfig.mk.injEq]
  exact ⟨UInt64.toNat_inj.mp (h .delay), UInt64.toNat_inj.mp (h .minDelay),
    UInt64.toNat_inj.mp (h .maxDelay), UInt64.toNat_inj.mp (h .celebration)⟩

end PlaybackSetting

/-- The settings of a configuration. -/
inductive Setting where
  /-- A limit of runs. -/
  | engine (x : EngineSetting)
  /-- A setting of the pace of playbacks. -/
  | playback (x : PlaybackSetting)
  /-- The patience of an autosave. -/
  | debounce

namespace Setting

/-- The section that it is in. -/
def part : Setting → Slot
  | engine _ => ⟨0, "engine"⟩
  | playback _ => ⟨1, "playback"⟩
  | debounce => ⟨2, "autosave"⟩

/-- The field of the section. -/
def slot : Setting → Slot
  | engine x => x.slot
  | playback x => x.slot
  | debounce => ⟨0, "debounce_ms"⟩

/-- Its number in a configuration. -/
def of : Setting → Config → Nat
  | engine x, c => x.of c.engine
  | playback x, c => x.of c.playback
  | debounce, c => c.autosave.debounce.toNat

/-- The flag for it, if there is one. -/
def flag? : Setting → Option Options.Flag
  | engine .maxSteps => some .maxSteps
  | engine .maxTicks => some .maxTicks
  | playback .delay => some .delay
  | _ => none

/-- What a file has for it, if the file has its section. -/
def held? (x : Setting) (file : Scan) : Option Scan :=
  (file.slot? x.part).bind (·.slot? x.slot)

open Decoder in
/-- Every setting of a configuration that was read is that of its file, or else the
default one. -/
theorem numberOr_of_decode {file : Scan} {c : Config} (h : Config.decode file = .ok c)
    (x : Setting) : NumberOr (x.held? file) (x.of c) (x.of {}) := by
  unfold Config.decode at h
  cases x with
  | engine x =>
    have hpart : ReadOr EngineConfig.decode (file.slot? ⟨0, "engine"⟩) c.engine {} :=
      readOr_record h ⟨rfl, by decide, fun _ _ => rfl, by simp [spares_field]⟩ rfl fun _ => rfl
    exact hpart.number x.of fun s hs => x.numberOr_of_decode hs
  | playback x =>
    have hpart : ReadOr PlaybackConfig.decode (file.slot? ⟨1, "playback"⟩) c.playback {} :=
      readOr_record h ⟨rfl, by decide, fun _ _ => rfl, by simp [spares_field]⟩ rfl fun _ => rfl
    exact hpart.number x.of fun s hs => x.numberOr_of_decode hs
  | debounce =>
    have hpart : ReadOr AutosaveConfig.decode (file.slot? ⟨2, "autosave"⟩) c.autosave {} :=
      readOr_record h ⟨rfl, by decide, fun _ _ => rfl, by simp [spares_field]⟩ rfl fun _ => rfl
    refine hpart.number (·.debounce.toNat) fun s hs => ReadOr.number_uint64 ?_
    exact readOr_record hs ⟨rfl, by decide, fun _ _ => rfl, by simp [slot]⟩ rfl fun _ => rfl

/-- The settings are all that there is to a configuration. -/
theorem ext_of {c d : Config} (h : ∀ x : Setting, x.of c = x.of d) : c = d := by
  have hengine : c.engine = d.engine := EngineSetting.ext_of fun x => h (.engine x)
  have hplayback : c.playback = d.playback := PlaybackSetting.ext_of fun x => h (.playback x)
  have hdebounce : c.autosave.debounce = d.autosave.debounce := UInt64.toNat_inj.mp (h .debounce)
  obtain ⟨engine, playback, ⟨debounce⟩⟩ := c
  obtain ⟨engine', playback', ⟨debounce'⟩⟩ := d
  rw [Config.mk.injEq, AutosaveConfig.mk.injEq]
  exact ⟨hengine, hplayback, hdebounce⟩

section Overriding

variable {o : Options} {pairs : List Options.Pair} {file : Scan} {c d : Config} {x : Setting}

/-- A setting is what the last value on the command line means, else what the file has,
and else the default one. -/
def Follows (x : Setting) (pairs : List Options.Pair) (file : Scan) (c : Config) : Prop :=
  match x.flag?.bind (Options.lastMeaning? pairs) with
  | some m => m = .number (x.of c)
  | none => Decoder.NumberOr (x.held? file) (x.of c) (x.of {})

/-- That leaves one number for it. -/
theorem Follows.unique (hc : x.Follows pairs file c) (hd : x.Follows pairs file d) :
    x.of c = x.of d := by
  unfold Follows at hc hd
  split at hc
  next m hm =>
    rw [hm] at hd
    exact Options.Meaning.number.inj (hc.symm.trans hd)
  next hm =>
    rw [hm] at hd
    exact Decoder.NumberOr.unique hc hd

/-- Without a flag, nothing on the command line counts. -/
theorem of_overriddenBy_of_none (hflag : x.flag? = none) (c : Config) (o : Overrides) :
    x.of (c.overriddenBy o) = x.of c := by
  cases x with
  | engine x => cases x <;> first | rfl | cases hflag
  | playback x => cases x <;> first | rfl | cases hflag
  | debounce => rfl

/-- An option goes before the configuration. -/
theorem of_overriddenBy {flag : Options.Flag} (hflag : x.flag? = some flag) (c : Config)
    (o : Options) :
    match o.held flag with
    | some m => m = .number (x.of (c.overriddenBy o.overrides))
    | none => x.of (c.overriddenBy o.overrides) = x.of c := by
  obtain ⟨mode, puzzle, script, catalog, config, team, store, delay, maxSteps, maxTicks⟩ := o
  cases x with
  | engine x =>
    cases x <;> cases hflag
    · cases maxSteps <;> rfl
    · cases maxTicks <;> rfl
  | playback x =>
    cases x <;> cases hflag
    cases delay <;> rfl
  | debounce => cases hflag

/-- The options of a command line take the place of what was read from a file. -/
theorem follows_overriddenBy (holds : o.Holds pairs) (h : Config.decode file = .ok c)
    (x : Setting) : x.Follows pairs file (c.overriddenBy o.overrides) := by
  have hfile := x.numberOr_of_decode h
  unfold Follows
  cases hflag : x.flag? with
  | none =>
    rw [of_overriddenBy_of_none hflag]
    exact hfile
  | some flag =>
    have hover := of_overriddenBy hflag c o
    have hunset : ({} : Options).held flag = none := by
      cases x with
      | engine x => cases x <;> cases hflag <;> rfl
      | playback x => cases x <;> cases hflag <;> rfl
      | debounce => cases hflag
    rw [holds flag, hunset, Option.or_none] at hover
    rw [Option.bind_some]
    cases hlast : Options.lastMeaning? pairs flag with
    | none =>
      rw [hlast] at hover
      dsimp only at hover ⊢
      rw [hover]
      exact hfile
    | some m =>
      rw [hlast] at hover
      exact hover

end Overriding

end Setting

/-- What was read from a text is what its tree is decoded as. -/
theorem Decoder.of_text {α : Type} {decode : Decoder α} {text : String} {a : α}
    (h : Decoder.text decode text = .ok a) : decode (Scan.ofText text).1 = .ok a := by
  unfold Decoder.text at h
  cases hdecode : decode (Scan.ofText text).1 with
  | error fault =>
    simp only [hdecode] at h
    cases h
  | ok read =>
    simp only [hdecode] at h
    split at h
    next => exact h
    next => cases h

theorem Config.decode_of_ofFile {path text : String} {c : Config}
    (h : ofFile path (.ok text) = .ok c) : decode (Scan.ofText text).1 = .ok c := by
  unfold ofFile at h
  cases hread : Decoder.text decode text with
  | error fault =>
    simp only [hread] at h
    cases h
  | ok read =>
    simp only [hread] at h
    obtain rfl := Except.ok.inj h
    exact Decoder.of_text hread

/-- The options of a command line and the configuration that comes of them. Arguments
make options if and only if they are pairs of a flag and a value that fits it, and each
option is what the last of its values means. Else they have the fault of the first of
them that offends. If a file was read, every setting of its configuration with the
options in it is that of the command line, else that of the file, else the default
one. -/
theorem Options.ofArguments_precedence (arguments : List String) :
    (∀ o : Options, ofArguments arguments = .ok o ↔
      ∃ pairs, arguments.drop 1 = spelled pairs ∧ (∀ p ∈ pairs, Fits p) ∧ o.Holds pairs) ∧
    (∀ fault, ofArguments arguments = .error fault ↔
      ∃ pairs rest, arguments.drop 1 = spelled pairs ++ rest ∧ (∀ p ∈ pairs, Fits p) ∧
        Offends rest fault) ∧
    ∀ pairs (o : Options), arguments.drop 1 = spelled pairs → ofArguments arguments = .ok o →
      ∀ path text config, Config.ofFile path (.ok text) = .ok config →
        ∀ c, c = config.overriddenBy o.overrides ↔
          ∀ x : Setting, x.Follows pairs (Scan.ofText text).1 c := by
  refine ⟨fun o => ofArguments_eq_ok_iff, fun fault => ofArguments_eq_error_iff,
    fun pairs o hall hmade path text config hfile c => ?_⟩
  have hfollows (x : Setting) := x.follows_overriddenBy (holds_of_ofArguments hall hmade)
    (Config.decode_of_ofFile hfile)
  constructor
  · rintro rfl
    exact hfollows
  · exact fun h => Setting.ext_of fun x => (h x).unique (hfollows x)

/-- The last of two delays goes before the default one, the limit of steps goes before
that of the file, and the other numbers of the file stay. -/
theorem Options.ofArguments_precedence_mixed :
    let pairs : List Pair := [(.delay, "120"), (.maxSteps, "7"), (.delay, "+80")]
    let text := "\x7b\"engine\":\x7b\"max_ticks\":11,\"max_steps\":9\x7d,\"playback\":[]\x7d"
    let c : Config := { engine := { maxSteps := 7, maxTicks := 11 }, playback := { delay := 80 } }
    ∃ o config, ofArguments ("maze" :: spelled pairs) = .ok o ∧
      Config.ofFile "config.json" (.ok text) = .ok config ∧ c = config.overriddenBy o.overrides ∧
      ∀ x : Setting, x.Follows pairs (Scan.ofText text).1 c := by
  intro pairs text c
  let config : Config := { engine := { maxSteps := 9, maxTicks := 11 } }
  have hread : (Config.ofFile "config.json" (.ok text)).toOption = some config := by
    decide +kernel
  have hfile : Config.ofFile "config.json" (.ok text) = .ok config := by
    cases h : Config.ofFile "config.json" (.ok text) with
    | error fault => rw [h] at hread; cases hread
    | ok read => rw [h] at hread; rw [Option.some.inj hread]
  have hprecedence := (ofArguments_precedence ("maze" :: spelled pairs)).2.2 pairs _ rfl rfl
    "config.json" text config hfile c
  exact ⟨_, config, rfl, hfile, rfl, hprecedence.mp rfl⟩

end MazeRobot

import MazeRobot.Proofs.Deeds
import MazeRobot.Proofs.Takers

/-!
# Delays follow the configuration

The delay of a playback is computed at two places: when it is made, from the
configured milliseconds, and when the delay is changed, from the span that is
asked for. A simulator keeps the two together. Whatever is done with it, it plays
at the delay of its configuration, which is what was asked for last, brought into
the range of delays and to a millisecond at least. So a change of the delay means
the same to the playback that is shown and to all that are shown later.
-/

namespace MazeRobot

namespace PlaybackConfig

/-- The one end of the range of delays. -/
def lowest (c : PlaybackConfig) : Nat := min c.minDelay.toNat c.maxDelay.toNat

/-- The other end. -/
def highest (c : PlaybackConfig) : Nat := max c.minDelay.toNat c.maxDelay.toNat

/-- A delay that a configuration allows: whole milliseconds, at least one of them,
and in the range as far as that allows for one. -/
def Allows (c : PlaybackConfig) (delay : Span) : Prop :=
  ∃ ms, delay = .ofMillis ms ∧ 1 ≤ ms ∧ (1 ≤ c.highest → c.lowest ≤ ms ∧ ms ≤ c.highest)

theorem toNat_clamp (c : PlaybackConfig) (ms : UInt64) :
    (c.clamp ms).toNat = min (max ms.toNat c.lowest) c.highest := by
  have hmin (a b : UInt64) : (min a b).toNat = min a.toNat b.toNat := by
    rw [Nat.min_def, ← apply_ite UInt64.toNat]
    rfl
  have hmax (a b : UInt64) : (max a b).toNat = max a.toNat b.toNat := by
    rw [Nat.max_def, ← apply_ite UInt64.toNat]
    rfl
  simp only [clamp, lowest, highest, hmin, hmax]

/-- A configuration with another delay. -/
def withDelay (c : PlaybackConfig) (millis : UInt64) : PlaybackConfig :=
  { c with delay := millis }

end PlaybackConfig

/-- A configuration with another delay. -/
def Config.withDelay (c : Config) (millis : UInt64) : Config :=
  { c with playback := c.playback.withDelay millis }

namespace Playback

/-- A delay is made of whole milliseconds, at least of one. -/
theorem delayFor_eq (config : PlaybackConfig) (millis : UInt64) :
    delayFor config millis = .ofMillis (max (config.clamp millis).toNat 1) := by
  rw [Span.ofMillis, ← Nat.mul_max_mul_right]
  rfl

theorem allows_delayFor (config : PlaybackConfig) (millis : UInt64) :
    config.Allows (delayFor config millis) := by
  have hclamp := config.toNat_clamp millis
  have hrange : config.lowest ≤ config.highest :=
    Nat.le_trans (Nat.min_le_left _ _) (Nat.le_max_left _ _)
  exact ⟨_, delayFor_eq config millis, by omega, fun h => by omega⟩

variable {op : Operation} {p : Playback} {c : Change}

/-- Only an operation on the delay changes it. -/
theorem Shift.delay_eq (h : Shift op p c) (hop : ∀ wanted, op ≠ .setDelay wanted) :
    c.1.delay = p.delay := by
  cases h with
  | delay clamped => exact absurd rfl (hop _)
  | finish playing all =>
    obtain ⟨left, view, hend⟩ := celebrate_eq p.ended
    rw [hend, ended_eq]
  | rewind held off => rw [moveTo_eq]; rfl
  | _ => rfl

/-- No operation changes the configuration. -/
theorem config_perform (p : Playback) (op : Operation) : (p.perform op).1.config = p.config :=
  perform_keep (P := fun _ q => q.config = p.config) (fun hc h => hc.config_eq.trans h) [] rfl op

theorem delay_perform (p : Playback) (hop : ∀ wanted, op ≠ .setDelay wanted) :
    (p.perform op).1.delay = p.delay :=
  (shifts_perform p op).keep (P := fun _ q => q.delay = p.delay)
    (fun hc h => (hc.delay_eq hop).trans h) [] rfl

theorem delay_perform_setDelay (p : Playback) (wanted : Span) :
    (p.perform (.setDelay wanted)).1.delay = delayFor p.config wanted.millisWord := rfl

end Playback

namespace Simulator

/-- The delay in milliseconds that an operation asks for, if it asks for one. -/
def Operation.wantedMillis : Operation → Option UInt64
  | setDelay wanted => some wanted.millisWord
  | run _ _ | runBeside _ _ | runUnstaffed _ _ | load _ | cancel | update _ | play | pause | resume
  | toggle | step | rewind | reset | work _ => none

/-- The delay in milliseconds that was asked for last, and else the one that was
asked for before. -/
def wantedMillis (before : UInt64) (ops : List (Session.Waking × Operation)) : UInt64 :=
  (ops.filterMap (·.2.wantedMillis)).getLast?.getD before

theorem wantedMillis_cons (before : UInt64) (first : Session.Waking × Operation)
    (rest : List (Session.Waking × Operation)) :
    wantedMillis before (first :: rest) =
      wantedMillis (first.2.wantedMillis.getD before) rest := by
  unfold wantedMillis
  rw [List.filterMap_cons]
  cases first.2.wantedMillis with
  | none => rfl
  | some millis =>
    rw [List.getLast?_cons]
    rfl

/-- Configurations with one range have the same delays. -/
theorem delayFor_congr {c d : PlaybackConfig} (hmin : c.minDelay = d.minDelay)
    (hmax : c.maxDelay = d.maxDelay) (millis : UInt64) :
    Playback.delayFor c millis = Playback.delayFor d millis := by
  unfold Playback.delayFor PlaybackConfig.clampDelay PlaybackConfig.clamp
  rw [hmin, hmax]

/-- A playback with the range of a configuration and with the delay for so many
milliseconds. -/
structure PlaysAt (config : PlaybackConfig) (millis : UInt64) (p : Playback) : Prop where
  /-- The one end of its range is that of the configuration. -/
  minDelay : p.config.minDelay = config.minDelay
  /-- So is the other end. -/
  maxDelay : p.config.maxDelay = config.maxDelay
  /-- It has the delay for the milliseconds. -/
  delay : p.delay = Playback.delayFor config millis

/-- A simulator in whose configuration nothing but the delay was changed, and whose
playback has that delay. -/
structure Paced (config : Config) (millis : UInt64) (s : Simulator) : Prop where
  /-- Only the delay was changed. -/
  configured : s.config = config.withDelay millis
  /-- The playback has that delay. -/
  playback : ∀ p, s.playback = some p → PlaysAt config.playback millis p

section Paced

variable {config : Config} {millis : UInt64} {s s' : Simulator}

theorem paced_ofConfig (config : Config) :
    Paced config config.playback.delay (ofConfig config) where
  configured := rfl
  playback p hp := by cases hp

/-- Where no playback is shown, only the configuration counts. -/
theorem Paced.of_none (hconfig : s.config = config.withDelay millis)
    (hplayback : s.playback = none) : Paced config millis s :=
  ⟨hconfig, fun p hp => by rw [hplayback] at hp; cases hp⟩

/-- Where a playback is shown, it has to have the delay. -/
theorem Paced.of_some {p : Playback} (hconfig : s.config = config.withDelay millis)
    (hplayback : s.playback = some p) (hp : PlaysAt config.playback millis p) :
    Paced config millis s :=
  ⟨hconfig, fun _ hq => Option.some.inj (hplayback.symm.trans hq) ▸ hp⟩

/-- A playback that was just made has the delay of its configuration. -/
theorem playsAt_ofReport (config : PlaybackConfig) (report : Report) (taken : Bool)
    (millis : UInt64) :
    PlaysAt config millis (.ofReport report (config.withDelay millis) taken) :=
  ⟨rfl, rfl, rfl⟩

/-- What is done with a playback leaves its delay, unless it is meant to change
it. -/
theorem PlaysAt.perform {config : PlaybackConfig} {p : Playback} (h : PlaysAt config millis p)
    {op : Playback.Operation} (hop : ∀ wanted, op ≠ .setDelay wanted) :
    PlaysAt config millis (p.perform op).1 where
  minDelay := by rw [p.config_perform, h.minDelay]
  maxDelay := by rw [p.config_perform, h.maxDelay]
  delay := by rw [p.delay_perform hop, h.delay]

theorem PlaysAt.setDelay {config : PlaybackConfig} {p : Playback} (h : PlaysAt config millis p)
    (wanted : Span) : PlaysAt config wanted.millisWord (p.perform (.setDelay wanted)).1 where
  minDelay := by rw [p.config_perform, h.minDelay]
  maxDelay := by rw [p.config_perform, h.maxDelay]
  delay := by rw [p.delay_perform_setDelay, delayFor_congr h.minDelay h.maxDelay]

theorem Paced.run (h : Paced config millis s) (waking : Session.Waking) (puzzle : Puzzle)
    (code : String) : Paced config millis (s.run waking puzzle code).1 := by
  have hconfig : (s.cancel waking).config = config.withDelay millis := h.configured
  rw [Simulator.run]
  cases (s.cancel waking).execute puzzle code with
  | error defect => exact .of_none hconfig rfl
  | ok report =>
    have hfresh := playsAt_ofReport config.playback report true millis
    refine .of_some hconfig rfl ?_
    rw [hconfig]
    exact hfresh.perform fun _ => Playback.Operation.noConfusion

theorem Paced.runBeside (h : Paced config millis s) (waking : Session.Waking) (puzzle : Puzzle)
    (code : String) : Paced config millis (s.runBeside waking puzzle code).1 := by
  rw [Simulator.runBeside]
  cases (s.cancel waking).execute puzzle code <;> exact .of_none h.configured rfl

theorem Paced.load (h : Paced config millis s) (waking : Session.Waking) (report : Report) :
    Paced config millis (s.load waking report) := by
  refine .of_some h.configured rfl ?_
  have hconfig : (s.cancel waking).config = config.withDelay millis := h.configured
  rw [hconfig]
  exact playsAt_ofReport config.playback report false millis

/-- The playback after an operation, if there is one. -/
theorem playback_operate (s : Simulator) (op : Playback.Operation) :
    (s.operate op).1.playback = s.playback.map fun p => (p.perform op).1 := by
  unfold Simulator.operate
  cases hs : s.playback with
  | none => exact hs
  | some p =>
    dsimp only
    rw [Option.map_some, Playback.perform]
    cases p.attempt op with
    | none => exact hs
    | some c => rfl

theorem Paced.operate (h : Paced config millis s) {op : Playback.Operation}
    (hop : ∀ wanted, op ≠ .setDelay wanted) : Paced config millis (s.operate op).1 where
  configured := (config_operate s op).trans h.configured
  playback q hq := by
    rw [playback_operate] at hq
    obtain ⟨p, hp, rfl⟩ := Option.map_eq_some_iff.mp hq
    exact (h.playback p hp).perform hop

/-- A change of the delay is one of the configuration and one of the playback. -/
theorem Paced.setDelay (h : Paced config millis s) (wanted : Span) :
    Paced config wanted.millisWord (s.setDelay wanted) where
  configured := by
    rw [Simulator.setDelay, config_operate, h.configured]
    rfl
  playback q hq := by
    rw [Simulator.setDelay, playback_operate] at hq
    obtain ⟨p, hp, rfl⟩ := Option.map_eq_some_iff.mp hq
    exact (h.playback p hp).setDelay wanted

/-- Every operation leaves a playback at the delay that was asked for last. -/
theorem Paced.perform (h : Paced config millis s) (waking : Session.Waking) (op : Operation) :
    Paced config (op.wantedMillis.getD millis) (s.perform waking op) := by
  cases op with
  | run puzzle code => exact h.run waking puzzle code
  | runBeside puzzle code => exact h.runBeside waking puzzle code
  | runUnstaffed puzzle code => exact .of_none h.configured rfl
  | load report => exact h.load waking report
  | cancel => exact .of_none h.configured rfl
  | setDelay wanted => exact h.setDelay wanted
  | work m => exact ⟨h.configured, h.playback⟩
  | update elapsed =>
    have hkept : Paced config millis (s.operate (.advance elapsed)).1 := h.operate nofun
    exact ⟨hkept.configured, hkept.playback⟩
  | play => exact h.operate nofun
  | pause => exact h.operate nofun
  | resume => exact h.operate nofun
  | toggle => exact h.operate nofun
  | step => exact h.operate nofun
  | rewind => exact h.operate nofun
  | reset => exact h.operate nofun

theorem Paced.performAll (h : Paced config millis s) (ops : List (Session.Waking × Operation)) :
    Paced config (wantedMillis millis ops) (performAll ops s) := by
  induction ops generalizing millis s with
  | nil => exact h
  | cons first rest ih =>
    rw [wantedMillis_cons]
    exact ih (h.perform first.1 first.2)

/-- A worker is given its playback at the delay of the configuration. -/
theorem Paced.session_runBeside (h : Paced config millis s) {waking : Session.Waking}
    {puzzle : Puzzle} {code : String} {t : Session}
    (ht : (s.runBeside waking puzzle code).1.session = some t) :
    t.playback.delay = Playback.delayFor config.playback millis := by
  have hconfig : (s.cancel waking).config = config.withDelay millis := h.configured
  rw [Simulator.runBeside] at ht
  cases hreport : (s.cancel waking).execute puzzle code with
  | error defect =>
    rw [hreport] at ht
    cases ht
  | ok report =>
    rw [hreport, hconfig] at ht
    obtain rfl := Option.some.inj ht
    have hplay (wanted : Span) : Playback.Operation.play ≠ .setDelay wanted :=
      Playback.Operation.noConfusion
    exact ((playsAt_ofReport config.playback report true millis).perform hplay).delay

end Paced

/-- Whatever is done with a simulator, nothing of its configuration changes but the
delay, and that is the one that was asked for last. The playback that it shows has
just this delay, brought into the range and to a millisecond at least, and so has
one that a worker is given then. Time that goes by is gone through in finitely many
delays, in one way only, until no delay is over. -/
theorem performAll_delay (config : Config) (ops : List (Session.Waking × Operation)) :
    let s := performAll ops (ofConfig config)
    let delay := (s.config.playback.clampDelay s.config.playback.delay).max (.ofMillis 1)
    s.config = config.withDelay (wantedMillis config.playback.delay ops) ∧
      config.playback.Allows delay ∧
      (∀ p, s.playback = some p → p.delay = delay ∧ ∀ elapsed, p.state = .playing →
        ∃ c, p.advance elapsed = (c.1, (p.advanceCelebration elapsed).2 ++ c.2) ∧ ¬c.1.IsDue ∧
          ∀ d, ((p.advanceCelebration elapsed).1.waiting (p.waited.add elapsed)).RunsOut d ↔
            d = c) ∧
      ∀ waking puzzle code t, (s.runBeside waking puzzle code).1.session = some t →
        t.playback.delay = delay := by
  intro s delay
  have h : Paced config (wantedMillis config.playback.delay ops) s :=
    (paced_ofConfig config).performAll ops
  have hdelay : delay =
      Playback.delayFor config.playback (wantedMillis config.playback.delay ops) := by
    unfold delay
    rw [h.configured]
    rfl
  rw [hdelay]
  refine ⟨h.configured, Playback.allows_delayFor _ _, fun p hp => ⟨(h.playback p hp).delay,
    fun elapsed playing => ?_⟩, fun waking puzzle code t ht => h.session_runBeside ht⟩
  obtain ⟨c, hc, hadvance⟩ := Playback.advance_eq_runsOut playing elapsed
  exact ⟨c, hadvance, hc.not_isDue, fun d => ⟨fun hd => hd.unique hc, fun hd => hd ▸ hc⟩⟩

end Simulator

end MazeRobot

import MazeRobot.Proofs.Pace

/-!
# Events tell everything

A viewer who knows where a run began and how fast it is played needs nothing
but the events to know the playback: folding them one after the other gives
its state, its delay and the whole view after every operation. Each event fits
what is known before it: a change of state leads from the state that is known,
and a record is the next one that was not applied. So between two rewinds the
records come in order, none of them twice and none left out. A reset is the one
operation of which the events do not tell everything.
-/

namespace MazeRobot.Playback

/-- What a viewer knows of a playback by its events. -/
structure Mirror where
  /-- Where the run began. -/
  start : Coord
  /-- How far the playback is. -/
  state : State
  /-- The time between two records. -/
  delay : Span
  /-- What is shown. -/
  view : View
  deriving DecidableEq, Repr

namespace Mirror

/-- What is known before the first event. -/
def first (start : Coord) (delay : Span) : Mirror where
  start := start
  state := .idle
  delay := delay
  view := .atStart start

/-- What is known after one more event. -/
def note (m : Mirror) : Event → Mirror
  | .applied _ record => { m with view := m.view.apply record }
  | .changed _ after => { m with state := after }
  | .delayChanged millis => { m with delay := .ofMillis millis }
  | .finished _ => m
  | .celebrationStarted => { m with view := { m.view with celebrating := true } }
  | .celebrationEnded => { m with view := { m.view with celebrating := false } }
  | .rewound => { m with view := .atStart m.start }

/-- What is known after some events. -/
def noteAll (m : Mirror) (events : List Event) : Mirror :=
  events.foldl note m

theorem noteAll_append (m : Mirror) (earlier later : List Event) :
    m.noteAll (earlier ++ later) = (m.noteAll earlier).noteAll later :=
  List.foldl_append

end Mirror

/-- What there is to know of a playback. -/
def mirror (p : Playback) : Mirror :=
  ⟨p.report.start, p.state, p.delay, p.view⟩

/-- An event fits what is known before it: it is the next record of the trace,
or it leads from the state that is known. -/
def Event.Fits (report : Report) (m : Mirror) : Event → Prop
  | .applied index record => index = m.view.applied ∧ report.trace.get? index = some record
  | .changed before _ => before = m.state
  | _ => True

/-- Events of which each fits what is known before it. -/
def Coherent (report : Report) : Mirror → List Event → Prop
  | _, [] => True
  | m, event :: later => event.Fits report m ∧ Coherent report (m.note event) later

/-- The place in the trace of the record that an event tells of. -/
def Event.index? : Event → Option Nat
  | .applied index _ => some index
  | _ => none

section Coherent

variable {report : Report} {m : Mirror}

theorem coherent_append {earlier later : List Event} :
    Coherent report m (earlier ++ later) ↔
      Coherent report m earlier ∧ Coherent report (m.noteAll earlier) later := by
  induction earlier generalizing m with
  | nil => exact (iff_of_eq (true_and _)).symm
  | cons event rest ih =>
    rw [List.cons_append, Coherent, Coherent, ih, and_assoc]
    rfl

/-- Every event among coherent ones fits what is known before it. -/
theorem Coherent.fits {earlier later : List Event} {event : Event}
    (h : Coherent report m (earlier ++ event :: later)) :
    event.Fits report (m.noteAll earlier) :=
  (coherent_append.mp h).2.1

/-- Only a record and a rewind change how many records were applied. -/
theorem applied_note {event : Event} (hnone : event.index? = none) (hne : event ≠ .rewound) :
    (m.note event).view.applied = m.view.applied := by
  cases event with
  | applied index record => cases hnone
  | rewound => exact absurd rfl hne
  | _ => rfl

/-- Without a rewind, records follow on one another. -/
theorem Coherent.indices {events : List Event} (h : Coherent report m events)
    (hnone : .rewound ∉ events) :
    events.filterMap Event.index? =
      List.range' m.view.applied (events.filterMap Event.index?).length := by
  induction events generalizing m with
  | nil => rfl
  | cons event rest ih =>
    obtain ⟨hfits, hrest⟩ := h
    obtain ⟨hne, hlater⟩ := List.ne_and_not_mem_of_not_mem_cons hnone
    have hindices := ih hrest hlater
    cases hindex : event.index? with
    | none =>
      rw [applied_note hindex (Ne.symm hne)] at hindices
      rw [List.filterMap_cons_none hindex]
      exact hindices
    | some index =>
      cases event with
      | applied place record =>
        obtain rfl := Option.some.inj hindex
        obtain ⟨hplace, _⟩ := hfits
        rw [List.filterMap_cons_some hindex, List.length_cons, List.range'_succ, hindices, hplace,
          List.length_range']
        rfl
      | _ => cases hindex

end Coherent

/-- Delays are whole milliseconds, so that an event tells them exactly. -/
theorem ofMillis_millis_delayFor (config : PlaybackConfig) (wanted : UInt64) :
    .ofMillis (delayFor config wanted).millis = delayFor config wanted := by
  have hdelay : delayFor config wanted = .ofMillis (max (config.clamp wanted).toNat 1) := by
    simp only [delayFor, PlaybackConfig.clampDelay, leastDelay, Span.max, Span.ofMillis]
    exact congrArg Span.mk (Nat.mul_max_mul_right _ _ _)
  rw [hdelay, Span.millis_ofMillis]

/-- Who hands the result in makes no difference to a viewer. -/
theorem mirror_ended (p : Playback) :
    p.ended.mirror = { p.mirror with state := .finished } := by
  rw [ended_eq]
  rfl

/-- A celebration that begins is told. -/
theorem mirrored_celebrate (report : Report) (p : Playback) :
    p.mirror.noteAll p.celebrate.2 = p.celebrate.1.mirror ∧
      Coherent report p.mirror p.celebrate.2 := by
  unfold celebrate
  split
  · exact ⟨rfl, trivial, trivial⟩
  · exact ⟨rfl, trivial⟩

/-- Every elementary change but a reset tells all that a viewer needs, and
nothing that does not fit. -/
theorem Shift.mirrored {report : Report} {op : Operation} {p : Playback} {c : Change}
    (hc : Shift op p c) (hop : op ≠ .reset) (h : Faithful report p) :
    p.mirror.noteAll c.2 = c.1.mirror ∧ Coherent report p.mirror c.2 := by
  cases hc with
  | count waited => exact ⟨rfl, trivial⟩
  | shorten on left => exact ⟨rfl, trivial⟩
  | quiet on => exact ⟨rfl, trivial, trivial⟩
  | apply next =>
    have hplace : p.cursor = p.mirror.view.applied := h.applied_eq.symm
    rw [h.shown] at next
    exact ⟨rfl, ⟨hplace, next⟩, trivial⟩
  | lead leads => exact ⟨rfl, rfl, trivial⟩
  | delay clamped =>
    refine ⟨?_, trivial, trivial⟩
    rw [clamped]
    exact congrArg (Mirror.mk _ _ · _) (ofMillis_millis_delayFor _ _)
  | finish playing all =>
    obtain ⟨hknown, hcoherent⟩ := mirrored_celebrate report p.ended
    rw [mirror_ended] at hknown hcoherent
    exact ⟨hknown, playing.symm, trivial, hcoherent⟩
  | back off => exact absurd rfl hop
  | rewind held off =>
    rw [moveTo]
    split
    · exact ⟨rfl, trivial, trivial⟩
    · exact ⟨rfl, rfl, trivial, trivial⟩

/-- What is known after some events is all there is to know, and each of them
fits what is known before it. -/
structure Mirrored (report : Report) (m : Mirror) (events : List Event) (p : Playback) :
    Prop where
  /-- The playback follows its report. -/
  faithful : Faithful report p
  /-- The viewer knows the playback. -/
  known : m.noteAll events = p.mirror
  /-- Every event fits. -/
  coherent : Coherent report m events

/-- Every elementary change but a reset keeps the viewer informed. -/
theorem Shift.keepsMirrored {report : Report} {m : Mirror} {op : Operation} {p : Playback}
    {c : Change} {events : List Event} (hop : op ≠ .reset) (hc : Shift op p c)
    (h : Mirrored report m events p) : Mirrored report m (events ++ c.2) c.1 := by
  obtain ⟨hknown, hcoherent⟩ := hc.mirrored hop h.faithful
  refine ⟨hc.faithful h.faithful, ?_, coherent_append.mpr ⟨h.coherent, ?_⟩⟩
  · rw [Mirror.noteAll_append, h.known, hknown]
  · rwa [h.known]

/-- Before the first event a viewer knows a playback that was not started. -/
theorem mirrored_ofReport (report : Report) (config : PlaybackConfig) (taken : Bool) :
    Mirrored report (.first report.start (delayFor config config.delay)) []
      (ofReport report config taken) where
  faithful := faithful_ofReport report config taken
  known := rfl
  coherent := trivial

/-- At the start and after a rewind no record is applied. -/
theorem applied_noteAll (start : Coord) (delay : Span) {events : List Event}
    (h : events = [] ∨ ∃ before, events = before ++ [.rewound]) :
    ((Mirror.first start delay).noteAll events).view.applied = 0 := by
  rcases h with rfl | ⟨before, rfl⟩
  · rfl
  · rw [Mirror.noteAll_append]
    rfl

/-- Whatever is done with a playback but a reset, a viewer who folds the events
knows its state, its delay and its whole view. Every change of state leads from
the state that is known, and every record is the one at the place that comes
next. From one rewind to the next the places are the first ones, in order. -/
theorem performAll_mirrored (report : Report) (config : PlaybackConfig) (taken : Bool)
    {ops : List Operation} (hops : .reset ∉ ops) :
    let played := performAll ops (ofReport report config taken)
    let m := Mirror.first report.start (delayFor config config.delay)
    m.noteAll played.2 = ⟨report.start, played.1.state, played.1.delay, played.1.view⟩ ∧
      (∀ earlier event later, played.2 = earlier ++ event :: later →
        event.Fits report (m.noteAll earlier)) ∧
      ∀ earlier between later, played.2 = earlier ++ (between ++ later) →
        (earlier = [] ∨ ∃ before, earlier = before ++ [.rewound]) → .rewound ∉ between →
          between.filterMap Event.index? =
            List.range (between.filterMap Event.index?).length := by
  intro played m
  have hmirrored : Mirrored report m played.2 played.1 :=
    performAll_keep_of (· ≠ .reset) Shift.keepsMirrored [] (mirrored_ofReport report config taken)
      fun op hop => ne_of_mem_of_not_mem hop hops
  refine ⟨?_, fun earlier event later hsplit => ?_, ?_⟩
  · rw [hmirrored.known, mirror, hmirrored.faithful.shown]
  · have hcoherent := hmirrored.coherent
    rw [hsplit] at hcoherent
    exact hcoherent.fits
  · intro earlier between later hsplit hstart hnone
    have hcoherent := hmirrored.coherent
    rw [hsplit] at hcoherent
    have hbetween := (coherent_append.mp (coherent_append.mp hcoherent).2).1
    rw [hbetween.indices hnone, applied_noteAll report.start _ hstart, List.range_eq_range',
      List.length_range']

/-- A playback to the natural end, a rewind out of the celebration, and a start
of another one by hand at another pace, which is cancelled. -/
def encore : List Operation :=
  [.play, .advance (.ofMillis 1200), .rewind, .setDelay (.ofMillis 77), .step, .play,
    .advance (.ofMillis 80), .toggle, .cancel]

/-- A viewer of an encore knows it by its events. -/
theorem performAll_mirrored_encore :
    .reset ∉ encore ∧
      let played := performAll encore (ofReport stroll {} true)
      let m := Mirror.first stroll.start (delayFor {} ({} : PlaybackConfig).delay)
      m.noteAll played.2 = ⟨stroll.start, played.1.state, played.1.delay, played.1.view⟩ ∧
        (∀ earlier event later, played.2 = earlier ++ event :: later →
          event.Fits stroll (m.noteAll earlier)) ∧
        ∀ earlier between later, played.2 = earlier ++ (between ++ later) →
          (earlier = [] ∨ ∃ before, earlier = before ++ [.rewound]) → .rewound ∉ between →
            between.filterMap Event.index? =
              List.range (between.filterMap Event.index?).length := by
  have hops : .reset ∉ encore := by decide
  exact ⟨hops, performAll_mirrored stroll {} true hops⟩

end MazeRobot.Playback

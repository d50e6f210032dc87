import MazeRobot.Proofs.Pace
import MazeRobot.Proofs.Submission

/-!
# How final a cancellation is

A playback that is cancelled before its natural end stays so, whatever is done
with it, and its result is not handed in. One operation alone leads out of
this: a rewind makes the playback ready to play all records again, as if it
had never been played, with the delay that it had at last. So the result is
handed in after a cancellation exactly if the playback is rewound and then
played to its natural end.
-/

namespace MazeRobot.Playback

section Shifts

variable {op : Operation} {p : Playback} {c : Change}

/-- Out of a cancellation nothing leads but a rewind. -/
theorem Shift.cancelled (h : Shift op p c) (hop : op ≠ .rewind) (hs : p.state = .cancelled) :
    c.1.state = .cancelled ∧ c.2.any Event.isFinish = false := by
  cases h with
  | lead leads =>
    rw [hs] at leads
    cases leads with
    | cancel going => exact absurd rfl going.2
    | reset going => exact absurd rfl going.2
  | finish playing all =>
    rw [hs] at playing
    cases playing
  | rewind held off => exact absurd rfl hop
  | _ => exact ⟨hs, rfl⟩

end Shifts

/-- A playback of a report whose result was not handed in. -/
structure Open (report : Report) (config : PlaybackConfig) (p : Playback) : Prop where
  /-- The playback follows its report. -/
  faithful : Faithful report p
  /-- The pace is the one that was asked for. -/
  config : p.config = config
  /-- It never came to its end. -/
  submitted : p.submitted = false
  /-- Nothing was handed in. -/
  sink : p.sink = some []

/-- A playback that was cancelled before its result was handed in. -/
structure Withdrawn (report : Report) (config : PlaybackConfig) (p : Playback) : Prop
    extends Open report config p where
  /-- It was stopped for good. -/
  state : p.state = .cancelled

/-- An elementary change that does not tell of the natural end hands nothing
in. -/
theorem Shift.leavesOpen {report : Report} {config : PlaybackConfig} {op : Operation}
    {p : Playback} {c : Change} (hc : Shift op p c) (h : Open report config p)
    (hnone : c.2.any Event.isFinish = false) : Open report config c.1 := by
  obtain ⟨hsubmitted, hsink⟩ := hc.handsIn
  rw [hnone, Bool.or_false] at hsubmitted
  rw [hnone, Bool.false_and] at hsink
  exact ⟨hc.faithful h.faithful, hc.config_eq.trans h.config, hsubmitted.trans h.submitted,
    hsink.trans h.sink⟩

/-- Without a rewind, a playback stays cancelled and nothing is handed in. -/
theorem Withdrawn.performAll {report : Report} {config : PlaybackConfig} {p : Playback}
    (h : Withdrawn report config p) {ops : List Operation} (hops : .rewind ∉ ops) :
    Withdrawn report config (performAll ops p).1 := by
  refine performAll_keep_of (P := fun _ q => Withdrawn report config q) (· ≠ .rewind)
    (fun hop hc hq => ?_) [] h fun op hop => ?_
  · obtain ⟨hstate, hnone⟩ := hc.cancelled hop hq.state
    exact ⟨hc.leavesOpen hq.toOpen hnone, hstate⟩
  · exact ne_of_mem_of_not_mem hop hops

/-- A playback that was not started, at a delay that may have been changed. -/
def rearmed (report : Report) (config : PlaybackConfig) (delay : Span) : Playback :=
  { ofReport report config true with delay := delay }

theorem handedIn_rearmed (report : Report) (config : PlaybackConfig) (delay : Span) :
    HandedIn report [] (rearmed report config delay) where
  faithful := (faithful_ofReport report config true).withPace .zero delay
  submitted := rfl
  sink := rfl

/-- A rewind makes a cancelled playback as good as new. -/
theorem Withdrawn.rewind {report : Report} {config : PlaybackConfig} {p : Playback}
    (h : Withdrawn report config p) :
    (p.perform .rewind).1 = rearmed report config p.delay := by
  have off : p.celebrationLeft = none :=
    h.faithful.celebrationLeft_of_state (h.state.trans_ne State.noConfusion)
  have hperform : (p.perform .rewind).1 = { p.toStart with state := .idle } := by
    rw [perform, attempt, Playback.rewind, if_neg (h.state.trans_ne State.noConfusion),
      endCelebration, off, Option.getD_some]
    simp only [Change.andThen_eq]
    exact moveTo_eq _ _
  obtain ⟨report', state, cursor, view, config', delay, waited, left, sink, submitted⟩ := p
  obtain ⟨⟨⟨rfl, _, _, _⟩, rfl, rfl, rfl⟩, _⟩ := h
  rw [hperform, show left = none from off]
  rfl

/-- Nothing was handed in, and the pace is the one that was asked for, as long
as a playback of a report has not come to its end. -/
theorem open_performAll {report : Report} {config : PlaybackConfig} {ops : List Operation}
    (h : (performAll ops (ofReport report config true)).1.submitted = false) :
    Open report config (performAll ops (ofReport report config true)).1 := by
  have hhanded : HandedIn report (performAll ops (ofReport report config true)).2
      (performAll ops (ofReport report config true)).1 :=
    performAll_keep Shift.handedIn [] (handedIn_ofReport report config) ops
  have hconfig : (performAll ops (ofReport report config true)).1.config = config :=
    performAll_keep (P := fun _ q => q.config = config) (fun hc hq => hc.config_eq.trans hq) []
      rfl ops
  refine ⟨hhanded.faithful, hconfig, h, ?_⟩
  rw [hhanded.sink, ← hhanded.submitted, h]
  rfl

/-- A cancellation before the end stops a playback for good. -/
theorem Open.cancel {report : Report} {config : PlaybackConfig} {p : Playback}
    (h : Open report config p) (hs : p.state ≠ .finished) :
    Withdrawn report config (p.perform .cancel).1 := by
  have off : p.celebrationLeft = none := h.faithful.celebrationLeft_of_state hs
  have hperform : (p.perform .cancel).1 = { p with state := .cancelled } := by
    rw [perform, attempt, Option.getD_some, Playback.cancel]
    cases hp : p.state with
    | finished => exact absurd hp hs
    | cancelled =>
      simp only [endCelebration, off]
      rw [← hp, ← off]
    | _ => exact moveTo_eq _ _
  rw [hperform]
  exact ⟨⟨.of_off h.faithful.shown h.faithful.cursor_le (h.faithful.view_of_off off) off,
    h.config, h.submitted, h.sink⟩, rfl⟩

/-- After a playback was cancelled before its end, its result is not handed in
exactly as long as it is not played to its natural end after a rewind. The
first rewind makes it a playback that was not started yet. -/
theorem sink_performAll_cancel_iff {report : Report} {config : PlaybackConfig}
    {before : List Operation} {p : Playback}
    (hp : p = (performAll before (ofReport report config true)).1) (hs : p.state ≠ .finished)
    (hsubmitted : p.submitted = false) (ops : List Operation) :
    (performAll (.cancel :: ops) p).1.sink = p.sink ↔
      ∀ held later, ops = held ++ .rewind :: later → .rewind ∉ held →
        (performAll later (rearmed report config
          (performAll (.cancel :: held) p).1.delay)).2.any Event.isFinish = false := by
  have hopen : Open report config p := by
    rw [hp] at hsubmitted ⊢
    exact open_performAll hsubmitted
  have hcancelled : Withdrawn report config (p.perform .cancel).1 := hopen.cancel hs
  -- What happens behind the first rewind happens to a playback that was not started.
  have hsplit (held later : List Operation) (hheld : .rewind ∉ held) :
      (performAll (.cancel :: (held ++ .rewind :: later)) p).1.sink = p.sink ↔
        (performAll later (rearmed report config
          (performAll (.cancel :: held) p).1.delay)).2.any Event.isFinish = false := by
    have hwithdrawn : Withdrawn report config (performAll (.cancel :: held) p).1 :=
      hcancelled.performAll hheld
    have hlater : (performAll (.cancel :: (held ++ .rewind :: later)) p).1 =
        (performAll later (rearmed report config (performAll (.cancel :: held) p).1.delay)).1 := by
      rw [← List.cons_append, performAll_append, ← hwithdrawn.rewind]
      rfl
    have hhanded : HandedIn report _ (performAll later (rearmed report config
        (performAll (.cancel :: held) p).1.delay)).1 :=
      performAll_keep Shift.handedIn [] (handedIn_rearmed report config _) later
    rw [hlater, hhanded.sink, hopen.sink, List.nil_append]
    cases (performAll later (rearmed report config
      (performAll (.cancel :: held) p).1.delay)).2.any Event.isFinish <;> simp
  constructor
  · rintro hsink held later rfl hheld
    exact (hsplit held later hheld).mp hsink
  · intro hnone
    by_cases hmem : .rewind ∈ ops
    · obtain ⟨held, later, rfl, hheld⟩ := List.eq_append_cons_of_mem hmem
      exact (hsplit held later hheld).mpr (hnone held later rfl hheld)
    · exact (hcancelled.performAll hmem).sink.trans hopen.sink.symm

/-- A stroll, shown up to its second record. -/
def strolling : Playback :=
  (performAll [.play, .advance (.ofMillis 300)] (ofReport stroll {} true)).1

/-- A stroll that is cancelled on its way and tried in vain, put back, rewound
and not quite played to its end, is not handed in. -/
theorem sink_performAll_cancel_strolling :
    let ops := [.resume, .step, .reset, .rewind, .play, .advance (.ofMillis 899)]
    strolling.state ≠ .finished ∧ strolling.submitted = false ∧
      (performAll (.cancel :: ops) strolling).1.sink = strolling.sink ∧
      ∀ held later, ops = held ++ .rewind :: later → .rewind ∉ held →
        (performAll later (rearmed stroll {}
          (performAll (.cancel :: held) strolling).1.delay)).2.any Event.isFinish = false := by
  intro ops
  have hs : strolling.state ≠ .finished := by decide +kernel
  have hsubmitted : strolling.submitted = false := by decide +kernel
  have hsink : (performAll (.cancel :: ops) strolling).1.sink = strolling.sink := by
    decide +kernel
  exact ⟨hs, hsubmitted, hsink, (sink_performAll_cancel_iff rfl hs hsubmitted ops).mp hsink⟩

/-- A stroll that is cancelled on its way is handed in all the same after a
rewind and three more delays. -/
theorem sink_performAll_cancel_rewind :
    strolling.state ≠ .finished ∧ strolling.submitted = false ∧ strolling.sink = some [] ∧
      (performAll [.cancel, .rewind, .play, .advance (.ofMillis 900)] strolling).1.sink =
        some [⟨true, 2⟩] := by
  decide +kernel

end MazeRobot.Playback

import MazeRobot.Playback
import Mathlib.Logic.Basic

/-!
# Elementary changes of a playback

All that ever happens to a playback is made of a few elementary changes, each
with the events that tell of it. An elementary change belongs to an operation:
only time that goes by ends a playback, only a reset puts it back in silence.
Every operation is a sequence of elementary changes, so what holds of a
playback before and after each of them, and of the events in between, holds
after all operations in any order.
-/

namespace MazeRobot.Playback

/-- The states between which an operation leads, the natural end and the way
back to the start left out. -/
inductive Leads : Operation → State → State → Prop where
  /-- An idle playback is started. -/
  | play : Leads .play .idle .playing
  /-- One that is playing is held. -/
  | pause : Leads .pause .playing .paused
  /-- One that is held goes on. -/
  | resume : Leads .resume .paused .playing
  /-- One that is playing is held. -/
  | hold : Leads .toggle .playing .paused
  /-- One that is held goes on. -/
  | release : Leads .toggle .paused .playing
  /-- One that has not come to an end is stopped. -/
  | cancel {before : State} (going : before ≠ .finished ∧ before ≠ .cancelled) :
      Leads .cancel before .cancelled
  /-- One that has not come to an end is stopped. -/
  | reset {before : State} (going : before ≠ .finished ∧ before ≠ .cancelled) :
      Leads .reset before .cancelled

/-- No operation leads to the natural end, and none of these leaves it. -/
theorem Leads.ne_finished {op : Operation} {before after : State} (h : Leads op before after) :
    before ≠ .finished ∧ after ≠ .finished := by
  cases h with
  | cancel going => exact ⟨going.1, State.noConfusion⟩
  | reset going => exact ⟨going.1, State.noConfusion⟩
  | _ => exact ⟨State.noConfusion, State.noConfusion⟩

/-- A playback that has just come to its natural end, before it celebrates. -/
def ended (p : Playback) : Playback :=
  submit { p with waited := .zero, state := .finished }

theorem ended_eq (p : Playback) :
    p.ended = { p with
      waited := .zero
      state := .finished
      submitted := true
      sink := if p.submitted then p.sink else p.sink.map (· ++ [p.report.result]) } := by
  unfold ended submit
  dsimp only
  split
  · next before => rw [← before]
  · rfl

/-- A success that begins to be celebrated changes nothing else. -/
theorem celebrate_eq (p : Playback) :
    ∃ left view, p.celebrate.1 = { p with celebrationLeft := left, view := view } := by
  unfold celebrate
  split
  · exact ⟨_, _, rfl⟩
  · exact ⟨p.celebrationLeft, p.view, rfl⟩

/-- A change of state changes nothing but the state. -/
theorem moveTo_eq (p : Playback) (after : State) :
    (p.moveTo after).1 = { p with state := after } := by
  unfold moveTo
  split
  · next same => rw [← same]
  · rfl

/-- One elementary change that an operation makes. -/
inductive Shift : Operation → Playback → Change → Prop where
  /-- The time since the latest record is told anew. Nobody notices. -/
  | count {op : Operation} (p : Playback) (waited : Span) :
      Shift op p ({ p with waited := waited }, [])
  /-- A celebration comes nearer to its end. -/
  | shorten {elapsed : Span} {p : Playback} (on : p.celebrationLeft.isSome) (left : Span) :
      Shift (.advance elapsed) p ({ p with celebrationLeft := some left }, [])
  /-- A celebration is over. -/
  | quiet {op : Operation} {p : Playback} (on : p.celebrationLeft.isSome) :
      Shift op p
        ({ p with celebrationLeft := none, view := { p.view with celebrating := false } },
          [.celebrationEnded])
  /-- The next record is applied. -/
  | apply {op : Operation} {p : Playback} {record : Record}
      (next : p.report.trace.get? p.cursor = some record) :
      Shift op p
        ({ p with view := p.view.apply record, cursor := p.cursor + 1 },
          [.applied p.cursor record])
  /-- The state changes. -/
  | lead {op : Operation} {p : Playback} {after : State} (leads : Leads op p.state after) :
      Shift op p ({ p with state := after }, [.changed p.state after])
  /-- The delay changes. -/
  | delay {p : Playback} {wanted delay : Span}
      (clamped : delay = delayFor p.config wanted.millisWord) :
      Shift (.setDelay wanted) p ({ p with delay := delay }, [.delayChanged delay.millis])
  /-- The playback comes to its natural end. -/
  | finish {elapsed : Span} {p : Playback} (playing : p.state = .playing)
      (all : p.length ≤ p.cursor) :
      Shift (.advance elapsed) p
        ((p.ended.celebrate).1,
          .changed .playing .finished :: .finished p.report.result :: p.ended.celebrate.2)
  /-- The robot is put back on its start. -/
  | back {p : Playback} (off : p.celebrationLeft = none) : Shift .reset p (p.toStart, [])
  /-- The playback is made ready to play all records again. -/
  | rewind {p : Playback} (held : p.state ≠ .playing) (off : p.celebrationLeft = none) :
      Shift .rewind p
        ((p.toStart.moveTo .idle).1, (p.toStart.moveTo .idle).2 ++ [.rewound])

/-- The pace that was asked for is never changed. -/
theorem Shift.config_eq {op : Operation} {p : Playback} {c : Change} (h : Shift op p c) :
    c.1.config = p.config := by
  cases h with
  | finish playing all =>
    obtain ⟨left, view, hc⟩ := celebrate_eq p.ended
    rw [hc, ended_eq]
  | rewind held off => rw [moveTo_eq]; rfl
  | _ => rfl

/-- Any number of elementary changes that an operation makes. -/
inductive Shifts (op : Operation) : Playback → Change → Prop where
  /-- Nothing happens. -/
  | none (p : Playback) : Shifts op p (p, [])
  /-- One elementary change and then some more. -/
  | more {p : Playback} {first later : Change} (head : Shift op p first)
      (tail : Shifts op first.1 later) : Shifts op p (later.1, first.2 ++ later.2)

theorem Shift.shifts {op : Operation} {p : Playback} {c : Change} (h : Shift op p c) :
    Shifts op p c := by
  have hs := Shifts.more h (.none c.1)
  rwa [List.append_nil] at hs

theorem Change.andThen_eq (c : Change) (f : Playback → Change) :
    c.andThen f = ((f c.1).1, c.2 ++ (f c.1).2) := rfl

/-- Elementary changes follow on one another. -/
theorem Shifts.andThen {op : Operation} {p : Playback} {c : Change} {f : Playback → Change}
    (h : Shifts op p c) (hf : Shifts op c.1 (f c.1)) : Shifts op p (c.andThen f) := by
  induction h with
  | none p => exact hf
  | @more p first later head tail ih =>
    have hs := Shifts.more head (ih hf)
    rw [Change.andThen_eq] at hs ⊢
    rwa [List.append_assoc]

/-- An elementary change that nobody notices, before others. -/
theorem Shifts.after {op : Operation} {p q : Playback} {c : Change} (head : Shift op p (q, []))
    (tail : Shifts op q c) : Shifts op p c :=
  .more head tail

theorem shifts_applyNext {op : Operation} (p : Playback) : Shifts op p p.applyNext := by
  unfold applyNext
  split
  · exact .none p
  · next next => exact (Shift.apply next).shifts

theorem shifts_endCelebration {op : Operation} (p : Playback) :
    Shifts op p p.endCelebration := by
  unfold endCelebration
  split
  · exact .none p
  · next left on => exact (Shift.quiet (by rw [on]; rfl)).shifts

/-- Ending a celebration changes nothing but the celebration. -/
theorem endCelebration_eq (p : Playback) :
    ∃ view events,
      p.endCelebration = ({ p with celebrationLeft := none, view := view }, events) := by
  unfold endCelebration
  split
  · next off =>
    refine ⟨p.view, [], ?_⟩
    rw [← off]
  · exact ⟨_, _, rfl⟩

/-- A change of state that an operation leads to. -/
theorem shifts_moveTo {op : Operation} {p : Playback} {after : State}
    (leads : Leads op p.state after) (hne : p.state ≠ after) : Shifts op p (p.moveTo after) := by
  rw [moveTo, if_neg hne]
  exact (Shift.lead leads).shifts

/-- The natural end of a playback that is playing, told as one change. -/
theorem finish_of_playing {p : Playback} (playing : p.state = .playing) :
    p.finish = (p.ended.celebrate.1,
      .changed .playing .finished :: .finished p.report.result :: p.ended.celebrate.2) := by
  have hne : ({ p with waited := .zero } : Playback).state ≠ .finished :=
    playing.trans_ne State.noConfusion
  rw [finish, moveTo, if_neg hne]
  simp only [Change.andThen_eq, playing, List.cons_append, List.nil_append]
  rfl

/-- A delay that is over leads to the next record or to the natural end. -/
theorem shifts_elapse {elapsed : Span} {p : Playback} (playing : p.state = .playing) :
    Shifts (.advance elapsed) p p.elapse := by
  unfold elapse
  split
  · exact shifts_applyNext p
  · next all =>
    rw [finish_of_playing playing]
    exact (Shift.finish playing (Nat.le_of_not_lt all)).shifts

theorem shifts_elapseAll {elapsed : Span} (count : Nat) (p : Playback) :
    Shifts (.advance elapsed) p (elapseAll count p) := by
  induction count generalizing p with
  | zero => exact .none p
  | succ count ih =>
    rw [elapseAll]
    split
    · next due =>
      have hs : Shifts (.advance elapsed) { p with waited := p.waited.sub p.delay }
          (elapse { p with waited := p.waited.sub p.delay }) := shifts_elapse due.1
      exact Shifts.after (.count p _) (hs.andThen (ih _))
    · exact .none p

theorem shifts_advanceCelebration (elapsed : Span) (p : Playback) :
    Shifts (.advance elapsed) p (p.advanceCelebration elapsed) := by
  unfold advanceCelebration
  split
  · exact .none p
  · next left on =>
    split
    · exact shifts_endCelebration p
    · exact (Shift.shorten (by rw [on]; rfl) _).shifts

theorem shifts_advance (elapsed : Span) (p : Playback) :
    Shifts (.advance elapsed) p (p.advance elapsed) := by
  unfold advance
  refine (shifts_advanceCelebration elapsed p).andThen ?_
  split
  · exact Shifts.after (.count _ _) (shifts_elapseAll _ _)
  · exact .none _

theorem shifts_cancel {op : Operation}
    (leads : ∀ before : State, before ≠ .finished ∧ before ≠ .cancelled →
      Leads op before .cancelled) (p : Playback) : Shifts op p p.cancel := by
  unfold cancel
  split
  · exact shifts_endCelebration p
  · exact shifts_endCelebration p
  · next hf hc => exact shifts_moveTo (leads _ ⟨hf, hc⟩) hc

theorem shifts_reset (p : Playback) : Shifts .reset p p.reset := by
  unfold reset
  refine ((shifts_cancel (fun _ => .reset) p).andThen (shifts_endCelebration _)).andThen ?_
  obtain ⟨view, events, h⟩ := endCelebration_eq p.cancel.1
  rw [Change.andThen_eq, h]
  exact (Shift.back rfl).shifts

theorem shifts_play {p : Playback} {c : Change} (h : p.play = some c) : Shifts .play p c := by
  unfold play at h
  split at h
  · next idle =>
    have hne : p.state ≠ .playing := idle.trans_ne State.noConfusion
    obtain rfl := Option.some.inj h
    refine (shifts_moveTo (by rw [idle]; exact .play) hne).andThen ?_
    exact Shifts.after (.count _ _) (shifts_applyNext _)
  · cases h

/-- What leads from one state to another and is refused in all others. -/
theorem shifts_of_state {op : Operation} {before after : State} (leads : Leads op before after)
    (hne : before ≠ after) {p : Playback} {c : Change}
    (h : (if p.state = before then some (p.moveTo after) else none) = some c) :
    Shifts op p c := by
  split at h
  · next hs =>
    obtain rfl := Option.some.inj h
    exact shifts_moveTo (by rwa [hs]) (hs.trans_ne hne)
  · cases h

theorem shifts_pause {op : Operation} (leads : Leads op .playing .paused) {p : Playback}
    {c : Change} (h : p.pause = some c) : Shifts op p c :=
  shifts_of_state leads State.noConfusion h

theorem shifts_resume {op : Operation} (leads : Leads op .paused .playing) {p : Playback}
    {c : Change} (h : p.resume = some c) : Shifts op p c :=
  shifts_of_state leads State.noConfusion h

theorem shifts_toggle {p : Playback} {c : Change} (h : p.toggle = some c) :
    Shifts .toggle p c := by
  unfold toggle at h
  split at h
  · exact shifts_pause .hold h
  · exact shifts_resume .release h
  · cases h

theorem shifts_step {p : Playback} {c : Change} (h : p.step = some c) : Shifts .step p c := by
  unfold step at h
  split at h
  · obtain rfl := Option.some.inj h
    have happly : Shifts .step p p.applyNext := shifts_applyNext p
    have hs := happly.andThen (f := fun q => ({ q with waited := .zero }, []))
      (Shift.count _ _).shifts
    rw [Change.andThen_eq, List.append_nil] at hs
    exact hs
  · cases h

theorem shifts_rewind {p : Playback} {c : Change} (h : p.rewind = some c) :
    Shifts .rewind p c := by
  unfold rewind at h
  split at h
  · cases h
  · next held =>
    obtain rfl := Option.some.inj h
    obtain ⟨view, events, he⟩ := endCelebration_eq p
    rw [he]
    have hfirst : Shifts .rewind p ({ p with celebrationLeft := none, view := view }, events) := by
      rw [← he]
      exact shifts_endCelebration p
    have hlast := (Shift.rewind (p := { p with celebrationLeft := none, view := view })
      held rfl).shifts
    have hs := hfirst.andThen (f := fun _ => _) hlast
    rw [Change.andThen_eq, ← List.append_assoc] at hs
    exact hs

/-- An operation that is not refused is a sequence of elementary changes. -/
theorem shifts_attempt {p : Playback} {op : Operation} {c : Change} (h : p.attempt op = some c) :
    Shifts op p c := by
  cases op with
  | play => exact shifts_play h
  | pause => exact shifts_pause .pause h
  | resume => exact shifts_resume .resume h
  | toggle => exact shifts_toggle h
  | step => exact shifts_step h
  | setDelay wanted =>
    obtain rfl := Option.some.inj h
    exact (Shift.delay rfl).shifts
  | advance elapsed =>
    obtain rfl := Option.some.inj h
    exact shifts_advance elapsed p
  | cancel =>
    obtain rfl := Option.some.inj h
    exact shifts_cancel (fun _ => .cancel) p
  | reset =>
    obtain rfl := Option.some.inj h
    exact shifts_reset p
  | rewind => exact shifts_rewind h

/-- Every operation is a sequence of elementary changes. -/
theorem shifts_perform (p : Playback) (op : Operation) : Shifts op p (p.perform op) := by
  unfold perform
  cases h : p.attempt op with
  | none => exact .none p
  | some c => exact shifts_attempt h

/-- What every elementary change of an operation keeps of the events so far and
of the playback after them, any number of them keep. -/
theorem Shifts.keep {P : List Event → Playback → Prop} {op : Operation}
    (hstep : ∀ {p : Playback} {c : Change} {events : List Event},
      Shift op p c → P events p → P (events ++ c.2) c.1)
    (events : List Event) {p : Playback} {c : Change} (hs : Shifts op p c) (h : P events p) :
    P (events ++ c.2) c.1 := by
  induction hs generalizing events with
  | none p => rwa [List.append_nil]
  | more head tail ih =>
    rw [← List.append_assoc]
    exact ih _ (hstep head h)

/-- What every elementary change keeps, an operation keeps. -/
theorem perform_keep {P : List Event → Playback → Prop}
    (hstep : ∀ {op : Operation} {p : Playback} {c : Change} {events : List Event},
      Shift op p c → P events p → P (events ++ c.2) c.1)
    (events : List Event) {p : Playback} (h : P events p) (op : Operation) :
    P (events ++ (p.perform op).2) (p.perform op).1 :=
  (shifts_perform p op).keep hstep events h

/-- What the elementary changes of some operations keep, these operations keep
in any order. -/
theorem performAll_keep_of {P : List Event → Playback → Prop} (allowed : Operation → Prop)
    (hstep : ∀ {op : Operation} {p : Playback} {c : Change} {events : List Event},
      allowed op → Shift op p c → P events p → P (events ++ c.2) c.1)
    (events : List Event) {p : Playback} (h : P events p) {ops : List Operation}
    (hops : ∀ op ∈ ops, allowed op) :
    P (events ++ (performAll ops p).2) (performAll ops p).1 := by
  induction ops generalizing events p with
  | nil => rwa [performAll, List.append_nil]
  | cons op rest ih =>
    obtain ⟨hop, hrest⟩ := List.forall_mem_cons.mp hops
    rw [performAll, Change.andThen_eq, ← List.append_assoc]
    exact ih _ ((shifts_perform p op).keep (hstep hop) events h) hrest

/-- What every elementary change keeps, operations in any order keep. -/
theorem performAll_keep {P : List Event → Playback → Prop}
    (hstep : ∀ {op : Operation} {p : Playback} {c : Change} {events : List Event},
      Shift op p c → P events p → P (events ++ c.2) c.1)
    (events : List Event) {p : Playback} (h : P events p) (ops : List Operation) :
    P (events ++ (performAll ops p).2) (performAll ops p).1 :=
  performAll_keep_of (fun _ => True) (fun _ => hstep) events h fun _ _ => trivial

end MazeRobot.Playback

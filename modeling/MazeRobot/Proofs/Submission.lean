import MazeRobot.Proofs.Replay

/-!
# Results are handed in once

Whoever takes the result of a playback gets it at most once, however often the
records are played again. It is handed in when the playback comes to its
natural end for the first time: while it is playing, behind the last record,
as time goes by. No other operation ever does so.
-/

namespace MazeRobot.Playback

/-- Whether an event tells of the natural end. -/
def Event.isFinish : Event → Bool
  | .finished _ => true
  | _ => false

/-- An operation leads a playback to the natural end of a report. -/
structure Completes (report : Report) (op : Operation) (p : Playback) (c : Change) : Prop where
  /-- Only time that goes by does. -/
  advance : ∃ elapsed, op = .advance elapsed
  /-- The playback was playing. -/
  playing : p.state = .playing
  /-- It has finished. -/
  finished : c.1.state = .finished
  /-- All records were applied. -/
  all : c.1.cursor = report.trace.length
  /-- It is told that the state went from one to the other, and with which
  result. -/
  told : ∃ earlier later,
    c.2 = earlier ++ .changed .playing .finished :: .finished report.result :: later

/-- Changes of state other than the natural end do not tell of it. -/
theorem isFinish_moveTo (p : Playback) (after : State) :
    (p.moveTo after).2.any Event.isFinish = false := by
  unfold moveTo
  split <;> rfl

section Shifts

variable {report : Report} {op : Operation} {p : Playback} {c : Change}

/-- An elementary change that tells of the natural end leads there. -/
theorem Shift.completes (h : Shift op p c) (hp : Faithful report p)
    (htold : c.2.any Event.isFinish = true) : Completes report op p c := by
  cases h with
  | finish playing all =>
    obtain ⟨left, view, hc⟩ := celebrate_eq p.ended
    rw [ended_eq] at hc
    refine ⟨⟨_, rfl⟩, playing, ?_, ?_, [], _, by rw [← hp.shown]; rfl⟩
    · rw [ended_eq, hc]
    · rw [ended_eq, hc]
      exact hp.cursor_eq all
  | rewind held off =>
    rw [List.any_append, isFinish_moveTo] at htold
    cases htold
  | _ => cases htold

/-- The natural end hands the result in unless that was done before; no other
elementary change does. -/
theorem Shift.handsIn (h : Shift op p c) :
    c.1.submitted = (p.submitted || c.2.any Event.isFinish) ∧
      c.1.sink = if c.2.any Event.isFinish && !p.submitted then
        p.sink.map (· ++ [p.report.result]) else p.sink := by
  cases h with
  | finish playing all =>
    obtain ⟨left, view, hc⟩ := celebrate_eq p.ended
    have hany : (Event.changed .playing .finished :: .finished p.report.result ::
        p.ended.celebrate.2).any Event.isFinish = true := rfl
    rw [hany, hc, ended_eq]
    cases p.submitted <;> exact ⟨rfl, rfl⟩
  | rewind held off =>
    rw [List.any_append, isFinish_moveTo, moveTo_eq]
    exact ⟨(Bool.or_false _).symm, rfl⟩
  | _ => exact ⟨(Bool.or_false _).symm, rfl⟩

/-- Time that goes by leads to no other state but the natural end. -/
theorem Shift.state_of_not_finish {elapsed : Span} (h : Shift (.advance elapsed) p c)
    (hnone : c.2.any Event.isFinish = false) : c.1.state = p.state := by
  cases h with
  | finish playing all => cases hnone
  | lead leads => cases leads
  | _ => rfl

/-- Time that goes by does nothing to the records behind the natural end. -/
theorem Shifts.rest {elapsed : Span} (h : Shifts (.advance elapsed) p c)
    (hp : Faithful report p) (hs : p.state = .finished)
    (all : p.cursor = report.trace.length) :
    c.1.state = .finished ∧ c.1.cursor = report.trace.length := by
  induction h with
  | none p => exact ⟨hs, all⟩
  | @more p first later head tail ih =>
    have hfirst := head.faithful hp
    cases head with
    | finish playing _ =>
      rw [hs] at playing
      cases playing
    | apply next =>
      have hlt := hp.lt_of_next next
      exact absurd all (Nat.ne_of_lt hlt)
    | lead leads => cases leads
    | count waited => exact ih hfirst hs all
    | shorten on left => exact ih hfirst hs all
    | quiet on => exact ih hfirst hs all

/-- An operation that tells of the natural end leads there. -/
theorem Shifts.completes (h : Shifts op p c) (hp : Faithful report p)
    (htold : c.2.any Event.isFinish = true) : Completes report op p c := by
  induction h with
  | none p => cases htold
  | @more p first later head tail ih =>
    have hfirst := head.faithful hp
    cases hhead : first.2.any Event.isFinish with
    | true =>
      obtain ⟨⟨elapsed, rfl⟩, playing, finished, all, earlier, rest, htold⟩ :=
        head.completes hp hhead
      obtain ⟨hs, hcursor⟩ := tail.rest hfirst finished all
      refine ⟨⟨elapsed, rfl⟩, playing, hs, hcursor, earlier, rest ++ later.2, ?_⟩
      rw [htold]
      simp only [List.append_assoc, List.cons_append]
    | false =>
      rw [List.any_append, hhead, Bool.false_or] at htold
      obtain ⟨⟨elapsed, rfl⟩, playing, finished, all, earlier, rest, hlater⟩ := ih hfirst htold
      refine ⟨⟨elapsed, rfl⟩, ?_, finished, all, first.2 ++ earlier, rest, ?_⟩
      · rw [← playing]
        exact (head.state_of_not_finish hhead).symm
      · rw [hlater, List.append_assoc]

end Shifts

/-- The result of a report was handed in exactly if the events so far tell of
the natural end. -/
structure HandedIn (report : Report) (events : List Event) (p : Playback) : Prop where
  /-- The playback follows its report. -/
  faithful : Faithful report p
  /-- It is remembered whether it ever came to its end. -/
  submitted : p.submitted = events.any Event.isFinish
  /-- The result was handed in once or not at all. -/
  sink : p.sink = some (if events.any Event.isFinish then [report.result] else [])

/-- Every elementary change keeps the books on what was handed in. -/
theorem Shift.handedIn {report : Report} {op : Operation} {p : Playback} {c : Change}
    {events : List Event} (hc : Shift op p c) (h : HandedIn report events p) :
    HandedIn report (events ++ c.2) c.1 := by
  obtain ⟨hsubmitted, hsink⟩ := hc.handsIn
  rw [h.submitted] at hsubmitted hsink
  rw [h.sink, h.faithful.shown] at hsink
  refine ⟨hc.faithful h.faithful, ?_, ?_⟩
  · rw [hsubmitted, List.any_append]
  · rw [hsink, List.any_append]
    cases events.any Event.isFinish <;> cases c.2.any Event.isFinish <;> rfl

/-- Nothing was handed in before a playback is started. -/
theorem handedIn_ofReport (report : Report) (config : PlaybackConfig) :
    HandedIn report [] (ofReport report config true) where
  faithful := faithful_ofReport report config true
  submitted := rfl
  sink := rfl

/-- After operations in any order, the result of a report was handed in once
if their events tell of the natural end, and else not at all. One more
operation hands it in exactly if it leads to the natural end for the first
time: none does but time that goes by while the playback is playing. -/
theorem performAll_handsIn_once (report : Report) (config : PlaybackConfig)
    (ops : List Operation) (op : Operation) :
    let played := performAll ops (ofReport report config true)
    let next := played.1.perform op
    played.1.sink = some (if played.2.any Event.isFinish then [report.result] else []) ∧
      ((next.2.any Event.isFinish = false ∧ next.1.sink = played.1.sink) ∨
        (Completes report op played.1 next ∧
          next.1.sink = if played.2.any Event.isFinish then played.1.sink
            else some [report.result])) := by
  intro played next
  have hplayed : HandedIn report played.2 played.1 :=
    performAll_keep Shift.handedIn [] (handedIn_ofReport report config) ops
  have hnext : HandedIn report (played.2 ++ next.2) next.1 :=
    perform_keep Shift.handedIn played.2 hplayed op
  refine ⟨hplayed.sink, ?_⟩
  cases htold : next.2.any Event.isFinish with
  | false =>
    refine .inl ⟨rfl, ?_⟩
    rw [hnext.sink, hplayed.sink, List.any_append, htold, Bool.or_false]
  | true =>
    have hcompletes := (shifts_perform played.1 op).completes hplayed.faithful htold
    refine .inr ⟨hcompletes, ?_⟩
    rw [hnext.sink, hplayed.sink, List.any_append, htold, Bool.or_true]
    cases played.2.any Event.isFinish <;> rfl

end MazeRobot.Playback

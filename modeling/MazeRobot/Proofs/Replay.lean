import MazeRobot.Playback.Observed
import MazeRobot.Proofs.Shift

/-!
# What a playback shows

Whatever is done with a playback, and in whatever order, a viewer sees what
the records applied so far tell: the view is their fold from the start of the
run. The cursor never leaves the trace. A success is shown exactly while it is
celebrated, and that is only at the natural end, behind the last record of a
run that was a success.
-/

namespace MazeRobot.Playback

/-- What the first records of a report tell. -/
def View.told (report : Report) (count : Nat) : View :=
  (View.atStart report.start).applyAll (report.trace.toList.take count)

/-- One more record tells what it adds. -/
theorem View.told_succ {report : Report} {count : Nat} {record : Record}
    (next : report.trace.get? count = some record) :
    told report (count + 1) = (told report count).apply record := by
  have hget : report.trace.toList[count]? = some record := by
    rw [Trace.toList, Array.getElem?_toList]
    exact next
  rw [told, List.take_add_one, hget, Option.toList_some, applyAll_append_singleton]
  rfl

/-- As many records were applied as the view tells. -/
theorem View.applied_told {report : Report} {count : Nat}
    (hle : count ≤ report.trace.length) : (told report count).applied = count := by
  have hlen : (report.trace.toList.take count).length = count := by
    rw [List.length_take, Trace.toList, Array.length_toList]
    exact Nat.min_eq_left hle
  rw [told, applied_applyAll, hlen]
  exact Nat.zero_add count

/-- Records do not tell of a success; only a celebration does. -/
theorem View.celebrating_applyAll (v : View) (records : List Record) :
    (v.applyAll records).celebrating = v.celebrating := by
  induction records generalizing v with
  | nil => rfl
  | cons record rest ih => exact ih (v.apply record)

theorem View.told_off (report : Report) (count : Nat) :
    { told report count with celebrating := false } = told report count := by
  have hoff : (told report count).celebrating = false := celebrating_applyAll _ _
  rw [← hoff]

/-- What a playback shows is what a report tells up to the cursor. -/
structure Faithful (report : Report) (p : Playback) : Prop where
  /-- The report is the one that is shown. -/
  shown : p.report = report
  /-- The cursor stays within the trace. -/
  cursor_le : p.cursor ≤ report.trace.length
  /-- The view is the fold of the records before the cursor, and the flag for
  success is up exactly during a celebration. -/
  view : p.view = { View.told report p.cursor with celebrating := p.isCelebrating }
  /-- Only a success that was played to its end is celebrated. -/
  celebrates : p.isCelebrating = true →
    p.state = .finished ∧ p.cursor = report.trace.length ∧ report.result.completed = true

namespace Faithful

variable {report : Report} {p : Playback}

/-- The cursor counts the records in the view. -/
theorem applied_eq (h : Faithful report p) : p.view.applied = p.cursor := by
  rw [h.view]
  exact View.applied_told h.cursor_le

/-- Without a celebration there is no time left of one. -/
theorem celebrationLeft_of_not (h : ¬p.isCelebrating = true) : p.celebrationLeft = none := by
  cases left : p.celebrationLeft with
  | none => rfl
  | some time => exact absurd (by rw [isCelebrating, left]; rfl) h

/-- Before its end, a playback does not celebrate. -/
theorem celebrationLeft_of_state (h : Faithful report p) (hs : p.state ≠ .finished) :
    p.celebrationLeft = none :=
  celebrationLeft_of_not fun on => hs (h.celebrates on).1

/-- Nor does it while there is a record to apply. -/
theorem celebrationLeft_of_lt (h : Faithful report p) (hlt : p.cursor < report.trace.length) :
    p.celebrationLeft = none :=
  celebrationLeft_of_not fun on => Nat.ne_of_lt hlt (h.celebrates on).2.1

/-- A playback that does not celebrate shows the fold and nothing else. -/
theorem view_of_off (h : Faithful report p) (off : p.celebrationLeft = none) :
    p.view = View.told report p.cursor := by
  rw [h.view, isCelebrating, off]
  exact View.told_off _ _

theorem of_off (shown : p.report = report) (hle : p.cursor ≤ report.trace.length)
    (view : p.view = View.told report p.cursor) (off : p.celebrationLeft = none) :
    Faithful report p where
  shown := shown
  cursor_le := hle
  view := by
    rw [view, isCelebrating, off]
    exact (View.told_off _ _).symm
  celebrates := fun on => by
    rw [isCelebrating, off] at on
    cases on

/-- Where there is a record to apply, the cursor is before the end. -/
theorem lt_of_next (h : Faithful report p) {record : Record}
    (next : p.report.trace.get? p.cursor = some record) : p.cursor < report.trace.length := by
  rw [h.shown, Trace.get?] at next
  exact (Array.getElem?_eq_some_iff.mp next).1

/-- Where there is none, the cursor is at the end. -/
theorem cursor_eq (h : Faithful report p) (all : p.length ≤ p.cursor) :
    p.cursor = report.trace.length := by
  rw [length, h.shown] at all
  exact Nat.le_antisymm h.cursor_le all

/-- The pace plays no part in what is shown. -/
theorem withPace (h : Faithful report p) (waited delay : Span) :
    Faithful report { p with waited := waited, delay := delay } :=
  ⟨h.shown, h.cursor_le, h.view, h.celebrates⟩

/-- Applying the next record is telling one more. -/
theorem apply (h : Faithful report p) {record : Record}
    (next : p.report.trace.get? p.cursor = some record) :
    Faithful report { p with view := p.view.apply record, cursor := p.cursor + 1 } := by
  have hlt := h.lt_of_next next
  have off := h.celebrationLeft_of_lt hlt
  rw [h.shown] at next
  have hview : p.view.apply record = View.told report (p.cursor + 1) := by
    rw [h.view_of_off off, View.told_succ next]
  exact .of_off h.shown hlt hview off

/-- At the natural end all records were told; a success is celebrated from
there on. -/
theorem celebrate (h : Faithful report p) (playing : p.state = .playing)
    (all : p.length ≤ p.cursor) : Faithful report p.ended.celebrate.1 := by
  have off := h.celebrationLeft_of_state (playing.trans_ne State.noConfusion)
  -- Who takes the result makes no difference to what is shown.
  rw [ended_eq]
  generalize (if p.submitted then p.sink else p.sink.map (· ++ [p.report.result])) = sink
  rw [Playback.celebrate]
  split
  · next success =>
    have hview : p.view = View.told report p.cursor := h.view_of_off off
    refine ⟨h.shown, h.cursor_le, ?_, fun _ => ⟨rfl, h.cursor_eq all, ?_⟩⟩
    · exact congrArg (fun v => { v with celebrating := true }) hview
    · rwa [← h.shown]
  · exact .of_off h.shown h.cursor_le (h.view_of_off off) off

/-- Back at the start nothing was told. -/
theorem toStart (h : Faithful report p) (off : p.celebrationLeft = none) :
    Faithful report p.toStart := by
  have hview : p.toStart.view = View.told report 0 := by
    rw [Playback.toStart, h.shown]
    rfl
  exact .of_off h.shown (Nat.zero_le _) hview off

end Faithful

/-- Every elementary change keeps a playback faithful. -/
theorem Shift.faithful {report : Report} {op : Operation} {p : Playback} {c : Change}
    (hc : Shift op p c) (h : Faithful report p) : Faithful report c.1 := by
  cases hc with
  | count _ waited => exact h.withPace waited p.delay
  | shorten on left =>
    exact ⟨h.shown, h.cursor_le, h.view.trans (by rw [isCelebrating, on]; rfl),
      fun _ => h.celebrates on⟩
  | quiet on =>
    have hview : { p.view with celebrating := false } = View.told report p.cursor := by
      rw [h.view]
      exact View.told_off _ _
    exact .of_off h.shown h.cursor_le hview rfl
  | apply next => exact h.apply next
  | lead leads =>
    have off := h.celebrationLeft_of_state leads.ne_finished.1
    exact .of_off h.shown h.cursor_le (h.view_of_off off) off
  | delay clamped => exact h.withPace p.waited _
  | finish playing all => exact h.celebrate playing all
  | back off => exact h.toStart off
  | rewind held off =>
    have hs := h.toStart off
    rw [moveTo_eq]
    exact .of_off hs.shown hs.cursor_le (hs.view_of_off off) off

/-- A playback that was not started shows the start. -/
theorem faithful_ofReport (report : Report) (config : PlaybackConfig) (taken : Bool) :
    Faithful report (ofReport report config taken) :=
  .of_off rfl (Nat.zero_le _) rfl rfl

/-- Operations in any order keep a playback faithful. -/
theorem faithful_performAll {report : Report} {p : Playback} (h : Faithful report p)
    (ops : List Operation) : Faithful report (performAll ops p).1 :=
  performAll_keep (P := fun _ q => Faithful report q) (fun hc hq => hc.faithful hq) [] h ops

namespace Observed

/-- Whatever is done with a playback and its events, the cursor stays within
the trace and counts the records in the view, the view is what they tell, and
a success is shown exactly while it is celebrated, behind the last record. -/
theorem useAll_faithful (report : Report) (config : PlaybackConfig) (taken : Bool)
    (uses : List Use) :
    Faithful report (useAll uses (.ofReport report config taken)).1.playback ∧
      (useAll uses (.ofReport report config taken)).1.playback.view.applied =
        (useAll uses (.ofReport report config taken)).1.playback.cursor := by
  rw [playback_useAll]
  have h := faithful_performAll (faithful_ofReport report config taken)
    (uses.filterMap Use.operation?)
  refine ⟨h, ?_⟩
  rw [ofReport, h.view]
  exact View.applied_told h.cursor_le

end Observed

end MazeRobot.Playback

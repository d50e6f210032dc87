import MazeRobot.Proofs.Action
import MazeRobot.Proofs.Grid
import MazeRobot.Proofs.Showing
import MazeRobot.Proofs.Solo

/-!
# A run is watched to its end

The worker and the viewer of a run take steps in any order, and the timer fires
sooner or later after it is due. What is printed is a beginning of the transcript
at any time. The viewer stops at the end of it, neither before nor never: every
step is one of a number that is known in advance, and as long as the viewer is
not done some step is possible. So every run of the two ends, with the whole
transcript printed and the result handed in once.
-/

namespace MazeRobot.Program

open Playback (HandedIn story)

namespace Watching

open Session (Worker)
open Session.Worker (Dismissed Performing)

/-- The events that a viewer has read. -/
def heard (w : Watching) : List Playback.Event :=
  w.worker.sent.toList.take w.seen

/-- A worker and its viewer, as they may ever be in the course of a run. -/
inductive Sound (puzzle : Puzzle) (report : Report) (w : Watching) : Prop where
  /-- The viewer has not read the last event. -/
  | attending (reading : w.viewer = .reading) (performing : Performing report w.worker)
      (behind : w.seen ≤ w.worker.sent.size)
      (printed : w.output = heading puzzle ++ String.join (w.heard.map eventText))
      (unheard : ∀ event ∈ w.heard, isLast event = false)
  /-- The viewer has read the last event, and the flag is down. -/
  | parting (signalling : w.viewer = .signalling) (performing : Performing report w.worker)
      (all : w.worker.sent.toList = story report)
      (printed : w.output = transcript puzzle report)
  /-- The flag is up. -/
  | leaving (dismissing : w.viewer = .cancelling ∨ w.viewer = .joining ∨ w.viewer = .done)
      (dismissed : Dismissed report w.worker) (printed : w.output = transcript puzzle report)
      (called : w.viewer = .joining → w.worker.point = .waiting → .cancel ∈ w.worker.queue)

/-- No more steps than these are left. -/
def left (report : Report) (w : Watching) : Nat :=
  match w.viewer with
  | .reading =>
    w.worker.effort report + 2 * ((story report).length - w.seen) + 2 * report.trace.length + 19
  | .signalling => w.worker.effort report + 2 * report.trace.length + 19
  | .cancelling => w.worker.toGo + 2
  | .joining => w.worker.toGo + 1
  | .done => w.worker.toGo

section Act

variable {puzzle : Puzzle} {report : Report} {w w' : Watching}

theorem sound_begin (puzzle : Puzzle) (report : Report) (config : PlaybackConfig) :
    Sound puzzle report (begin puzzle (.ofReport report config true)) :=
  .attending rfl (Session.Worker.performing_spawn report config) (Nat.zero_le _)
    (String.append_empty).symm (by simp [heard, begin, Session.Worker.spawn])

theorem left_begin (puzzle : Puzzle) (report : Report) (config : PlaybackConfig) :
    (begin puzzle (.ofReport report config true)).left report ≤ 10 * report.trace.length + 48 := by
  have hstory := Playback.length_story_le report
  have htimers : (Worker.spawn (.ofReport report config true)).told.1.timers ≤
      report.trace.length + 2 := (Playback.tells_play report config).2
  have heffort : (Worker.spawn (.ofReport report config true)).effort report =
      (story report).length + 5 * (Worker.spawn (.ofReport report config true)).told.1.timers +
        4 := rfl
  simp only [left, begin, heffort]
  omega

theorem take_sent_succ {event : Playback.Event} (hnext : w.worker.sent[w.seen]? = some event) :
    w.worker.sent.toList.take (w.seen + 1) = w.heard ++ [event] := by
  rw [heard, List.take_add_one, Array.getElem?_toList, hnext]
  rfl

/-- The viewer prints an event more: what it has printed is what it has read, and
it stops behind the last event of the story. -/
theorem Sound.hear (reading : w.viewer = .reading) (performing : Performing report w.worker)
    (printed : w.output = heading puzzle ++ String.join (w.heard.map eventText))
    (unheard : ∀ event ∈ w.heard, isLast event = false) {event : Playback.Event}
    (hnext : w.worker.sent[w.seen]? = some event)
    (hw : w' = { w with
      viewer := viewerAfter event
      seen := w.seen + 1
      output := w.output ++ eventText event }) :
    Sound puzzle report w' ∧ w'.left report < w.left report := by
  subst hw
  have hheard := take_sent_succ hnext
  have hprinted : w.output ++ eventText event =
      heading puzzle ++ String.join ((w.heard ++ [event]).map eventText) := by
    rw [printed, List.map_append, String.join_append, List.map_singleton, String.join_cons,
      String.join_nil, String.append_empty, String.append_assoc]
  have hprefix : w.heard ++ [event] <+: story report := by
    rw [← hheard]
    exact (List.take_prefix _ _).trans performing.sent_isPrefix
  obtain ⟨hlt, -⟩ := Array.getElem?_eq_some_iff.mp hnext
  have hlength := performing.sent_isPrefix.length_le
  rw [Array.length_toList] at hlength
  cases hlast : isLast event with
  | true =>
    have hall : w.heard ++ [event] = story report :=
      (exists_isLast_iff hprefix).mp ⟨event, by simp, hlast⟩
    have hsent : w.worker.sent.toList = story report := by
      refine performing.sent_isPrefix.eq_of_length_le ?_
      rw [← hall, ← hheard]
      exact (List.take_prefix _ _).length_le
    refine ⟨.parting (by rw [viewerAfter, hlast]; rfl) performing hsent ?_, ?_⟩
    · rw [hprinted, hall, transcript_eq]
    · simp only [left, reading, viewerAfter, hlast, if_true]
      omega
  | false =>
    refine ⟨.attending (by rw [viewerAfter, hlast]; rfl) performing hlt ?_ ?_, ?_⟩
    · rw [hprinted, ← hheard]
      rfl
    · intro e he
      rw [heard, hheard] at he
      rcases List.mem_append.mp he with hold | hnew
      · exact unheard e hold
      · rw [List.mem_singleton.mp hnew]
        exact hlast
    · simp only [left, reading, viewerAfter, hlast, Bool.false_eq_true, if_false]
      omega

/-- The viewer reads on. It never notices that no event will come, as the last
one comes before. -/
theorem Sound.read (h : Sound puzzle report w) (reading : w.viewer = .reading)
    (hread : w.readNext = some w') :
    Sound puzzle report w' ∧ w'.left report < w.left report := by
  cases h with
  | attending _ performing behind printed unheard =>
    rw [Watching.readNext] at hread
    split at hread
    · next event hnext =>
      exact Sound.hear reading performing printed unheard hnext (Option.some.inj hread).symm
    · split at hread
      · next gone => exact absurd (by rw [gone]; rfl) performing.stays
      · cases hread
  | parting signalling => cases signalling.symm.trans reading
  | leaving dismissing => rw [reading] at dismissing; simp at dismissing

/-- The worker makes a step. -/
theorem Sound.work (h : Sound puzzle report w) {one : Session.Step} (own : one.isOwn = true)
    (due : isDue w.worker one = true) {worker : Worker} (hstep : w.worker.step one = some worker) :
    Sound puzzle report { w with worker := worker } ∧
      { w with worker := worker }.left report < w.left report := by
  have hmore := (Session.Worker.stepped_of_step hstep).sent_isPrefix
  cases h with
  | attending reading performing behind printed unheard =>
    obtain ⟨hnext, hless⟩ := performing.step own due hstep
    have hheard : { w with worker := worker }.heard = w.heard := by
      obtain ⟨later, hlater⟩ := hmore
      rw [heard, heard, ← hlater, List.take_append_of_le_length behind]
    refine ⟨.attending reading hnext (Nat.le_trans behind hmore.length_le) ?_ ?_, ?_⟩
    · rw [hheard]
      exact printed
    · rw [hheard]
      exact unheard
    · simp only [left, reading]
      omega
  | parting signalling performing all printed =>
    obtain ⟨hnext, hless⟩ := performing.step own due hstep
    rw [all] at hmore
    have hall : worker.sent.toList = story report :=
      hnext.sent_isPrefix.eq_of_length_le hmore.length_le
    refine ⟨.parting signalling hnext hall printed, ?_⟩
    simp only [left, signalling]
    omega
  | leaving dismissing dismissed printed called =>
    obtain ⟨hnext, hless⟩ := dismissed.step own hstep
    refine ⟨.leaving dismissing hnext printed fun joining waiting => ?_, ?_⟩
    · exact (Session.Worker.stepped_of_step hstep).called dismissed.up (called joining) waiting
    · rcases dismissing with hv | hv | hv <;> simp only [left, hv] <;> omega

/-- The viewer raises the flag. -/
theorem Sound.raise (h : Sound puzzle report w) (signalling : w.viewer = .signalling)
    {worker : Worker} (hraise : w.worker.move .raise = some worker) :
    Sound puzzle report { w with worker := worker, viewer := .cancelling } ∧
      { w with worker := worker, viewer := .cancelling }.left report < w.left report := by
  obtain rfl := Option.some.inj hraise
  cases h with
  | attending reading => cases reading.symm.trans signalling
  | parting _ performing all printed =>
    have hdismissed := performing.dismiss all
    have hfew := hdismissed.toGo_le
    refine ⟨.leaving (.inl rfl) hdismissed printed (fun joining => nomatch joining), ?_⟩
    simp only [left, signalling]
    omega
  | leaving dismissing => rw [signalling] at dismissing; simp at dismissing

/-- The viewer queues the cancel or comes too late with it. -/
theorem Sound.cancel (h : Sound puzzle report w) (cancelling : w.viewer = .cancelling)
    {worker : Worker} (hworker : (w.worker.move (.enqueue .cancel)).getD w.worker = worker) :
    Sound puzzle report { w with worker := worker, viewer := .joining } ∧
      { w with worker := worker, viewer := .joining }.left report < w.left report := by
  cases h with
  | attending reading => cases reading.symm.trans cancelling
  | parting signalling => cases signalling.symm.trans cancelling
  | leaving _ dismissed printed =>
    obtain ⟨hnext, hsame, hcalled⟩ := dismissed.call hworker
    refine ⟨.leaving (.inr (.inl rfl)) hnext printed fun _ => hcalled, ?_⟩
    simp only [left, cancelling, hsame]
    omega

/-- The viewer notices that the worker has left. -/
theorem Sound.join (h : Sound puzzle report w) (joining : w.viewer = .joining) :
    Sound puzzle report { w with viewer := .done } ∧
      { w with viewer := .done }.left report < w.left report := by
  cases h with
  | attending reading => cases reading.symm.trans joining
  | parting signalling => cases signalling.symm.trans joining
  | leaving _ dismissed printed =>
    refine ⟨.leaving (.inr (.inr rfl)) dismissed printed (fun joining => nomatch joining), ?_⟩
    simp only [left, joining]
    omega

/-- Every step keeps things in order and is one of those that were left. -/
theorem Sound.act (h : Sound puzzle report w) {a : Act} (ha : w.act a = some w') :
    Sound puzzle report w' ∧ w'.left report < w.left report := by
  cases a with
  | work one =>
    rw [Watching.act] at ha
    split at ha
    · next hone =>
      obtain ⟨worker, hstep, rfl⟩ := Option.map_eq_some_iff.mp ha
      exact h.work hone.1 hone.2 hstep
    · cases ha
  | read =>
    rw [Watching.act] at ha
    split at ha
    · next reading => exact h.read reading ha
    · cases ha
  | raise =>
    rw [Watching.act] at ha
    split at ha
    · next signalling =>
      obtain ⟨worker, hraise, rfl⟩ := Option.map_eq_some_iff.mp ha
      exact h.raise signalling hraise
    · cases ha
  | cancel =>
    rw [Watching.act] at ha
    split at ha
    · next cancelling =>
      obtain rfl := Option.some.inj ha
      exact h.cancel cancelling rfl
    · cases ha
  | join =>
    rw [Watching.act] at ha
    split at ha
    · next gone =>
      obtain rfl := Option.some.inj ha
      exact h.join gone.1
    · cases ha

end Act

/-- Every run keeps things in order, and its steps are among those that were
left. -/
theorem Sound.actAll {puzzle : Puzzle} {report : Report} {acts : List Act} {w w' : Watching}
    (h : Sound puzzle report w) (hacts : actAll acts w = some w') :
    Sound puzzle report w' ∧ acts.length + w'.left report ≤ w.left report := by
  induction acts generalizing w with
  | nil =>
    obtain rfl := Option.some.inj hacts
    exact ⟨h, Nat.le_of_eq (Nat.zero_add _)⟩
  | cons a rest ih =>
    obtain ⟨middle, hfirst, hrest⟩ := Option.bind_eq_some_iff.mp hacts
    obtain ⟨hmiddle, hless⟩ := h.act hfirst
    obtain ⟨hlater, hfew⟩ := ih hmiddle hrest
    refine ⟨hlater, ?_⟩
    rw [List.length_cons]
    omega

section Sound

variable {puzzle : Puzzle} {report : Report} {w : Watching}

theorem exists_act_of_work {one : Session.Step} (own : one.isOwn = true)
    (due : isDue w.worker one = true) (hone : (w.worker.step one).isSome = true) :
    ∃ a, (w.act a).isSome = true := by
  refine ⟨.work one, ?_⟩
  rw [act, if_pos ⟨own, due⟩, Option.isSome_map]
  exact hone

/-- Neither the worker nor its viewer waits for the other in vain. -/
theorem Sound.exists_act (h : Sound puzzle report w) (going : w.viewer ≠ .done) :
    ∃ a, (w.act a).isSome = true := by
  cases h with
  | attending reading performing behind printed unheard =>
    by_cases hnew : w.seen < w.worker.sent.size
    · refine ⟨.read, ?_⟩
      rw [Watching.act, if_pos reading, Watching.readNext, Array.getElem?_eq_getElem hnew]
      rfl
    · have hheard : w.heard = w.worker.sent.toList :=
        List.take_of_length_le (Nat.le_of_not_lt hnew)
      have hmore : w.worker.sent.toList ≠ story report := by
        intro hall
        rw [hheard, hall] at unheard
        obtain ⟨event, hevent, hlast⟩ := (exists_isLast_iff List.prefix_rfl).mpr rfl
        rw [unheard event hevent] at hlast
        cases hlast
      obtain ⟨one, own, due, hone⟩ := performing.exists_step hmore
      exact exists_act_of_work own due hone
  | parting signalling => exact ⟨.raise, by rw [Watching.act, if_pos signalling]; rfl⟩
  | leaving dismissing dismissed printed called =>
    rcases dismissing with cancelling | joining | done
    · exact ⟨.cancel, by rw [Watching.act, if_pos cancelling]; rfl⟩
    · by_cases away : w.worker.point = .stopped
      · exact ⟨.join, by rw [Watching.act, if_pos ⟨joining, away⟩]; rfl⟩
      · obtain ⟨one, own, hone⟩ := Session.Worker.exists_step away fun asleep =>
          List.ne_nil_of_mem (called joining asleep)
        exact exists_act_of_work own (dismissed.isDue hone) hone
    · exact absurd done going

/-- What is printed is a beginning of the transcript. -/
theorem Sound.output_isPrefix (h : Sound puzzle report w) :
    ∃ later, transcript puzzle report = w.output ++ later := by
  cases h with
  | attending reading performing behind printed unheard =>
    obtain ⟨later, hlater⟩ := (List.take_prefix w.seen _).trans performing.sent_isPrefix
    refine ⟨String.join (later.map eventText), ?_⟩
    rw [transcript_eq, ← hlater, printed, List.map_append, String.join_append,
      String.append_assoc]
    rfl
  | parting signalling performing all printed =>
    exact ⟨"", by rw [printed, String.append_empty]⟩
  | leaving dismissing dismissed printed called =>
    exact ⟨"", by rw [printed, String.append_empty]⟩

/-- The result is handed in once or not yet. -/
theorem Sound.sink_eq (h : Sound puzzle report w) :
    w.worker.observed.playback.sink = some [] ∨
      w.worker.observed.playback.sink = some [report.result] := by
  have hhanded : HandedIn report w.worker.shown.2 w.worker.shown.1 := by
    cases h with
    | attending reading performing => exact performing.handed
    | parting signalling performing => exact performing.handed
    | leaving dismissing dismissed => exact dismissed.handed
  have hsink := hhanded.sink
  split at hsink
  · exact .inr hsink
  · exact .inl hsink

/-- A viewer that reads no more has printed everything, and the result was
handed in. -/
theorem Sound.whole (h : Sound puzzle report w) (hover : w.viewer ≠ .reading) :
    w.output = transcript puzzle report ∧
      w.worker.observed.playback.sink = some [report.result] := by
  cases h with
  | attending reading => exact absurd reading hover
  | parting signalling performing all printed =>
    exact ⟨printed, (performing.dismiss all).sink_eq⟩
  | leaving dismissing dismissed printed called => exact ⟨printed, dismissed.sink_eq⟩

end Sound

/-- How a worker and its viewer come along in the course of a run, and that they
come to an end. -/
structure ComesAlong (puzzle : Puzzle) (report : Report) (acts : List Act) (w : Watching) :
    Prop where
  /-- A run does not go on for ever. -/
  few : acts.length ≤ 10 * report.trace.length + 48
  /-- It goes on until the viewer is done. -/
  goes : w.viewer ≠ .done → ∃ a, (w.act a).isSome = true
  /-- What is printed is a beginning of the transcript. -/
  output : ∃ later, transcript puzzle report = w.output ++ later
  /-- The result is handed in once or not yet. -/
  sink : w.worker.observed.playback.sink = some [] ∨
    w.worker.observed.playback.sink = some [report.result]
  /-- A viewer that reads no more has printed everything, and the result was
  handed in. -/
  whole : w.viewer ≠ .reading → w.output = transcript puzzle report ∧
    w.worker.observed.playback.sink = some [report.result]

theorem comesAlong_actAll {puzzle : Puzzle} {report : Report} {config : PlaybackConfig}
    {acts : List Act} {w : Watching}
    (hacts : actAll acts (begin puzzle (.ofReport report config true)) = some w) :
    ComesAlong puzzle report acts w := by
  obtain ⟨hsound, hfew⟩ := (sound_begin puzzle report config).actAll hacts
  have hleft := left_begin puzzle report config
  exact ⟨by omega, hsound.exists_act, hsound.output_isPrefix, hsound.sink_eq, hsound.whole⟩

end Watching

section Play

variable {config : Config} {puzzle : Puzzle} {code : String} {report : Report}

/-- Where one mode encodes a report, the other shows the transcript of it: when
everything that happens is read at once, and whatever steps the worker and its
viewer take in whatever order. -/
theorem play_tells_report (h : (Simulator.ofConfig config).execute puzzle code = .ok report) :
    headless config puzzle code = .text (report.toJson.pretty ++ "\n") ∧
      (play config puzzle code).output = transcript puzzle report ∧
      (play config puzzle code).fault = none ∧
      (((Simulator.ofConfig config).runBeside (.command .zero) puzzle code).1.awaitEvent
        isLast).1.submissions = [[report.result]] ∧
      ((Simulator.ofConfig config).runBeside (.command .zero) puzzle code).1.session =
        some (.spawn (.ofReport report config.playback true)) ∧
      ∀ acts w,
        Watching.actAll acts (.begin puzzle (.ofReport report config.playback true)) = some w →
          Watching.ComesAlong puzzle report acts w := by
  obtain ⟨houtput, hfault⟩ := play_of_execute h
  exact ⟨headless_of_execute h, houtput, hfault, submissions_of_execute h,
    by rw [runBeside_of_execute h], fun acts w => Watching.comesAlong_actAll⟩

end Play

/-- A puzzle with the goal next to the start. -/
def errand : Puzzle where
  id := "errand"
  title := "Errand"
  description := ""
  difficulty := .easy
  order := none
  grid := .crossing
  goal := ⟨1, 1⟩
  hint := none
  solution := none

/-- A script that goes ahead at every tick. -/
def ahead : String := "fn update() \x7b move(1); \x7d"

/-- The viewer reads the first events, the timer fires late, the viewer reads on
when all is sent, and the worker sees the flag before the cancel is queued. -/
def visit : List Watching.Act :=
  List.replicate 4 (.work .proceed) ++ .work (.move .check) :: .read :: .read ::
    .work (.move (.timer (.ofMillis 700))) :: List.replicate 7 (.work .proceed) ++
    .work (.move .check) :: .work (.move (.timer (.ofMillis 5000))) ::
    List.replicate 4 (.work .proceed) ++ List.replicate 5 .read ++ .raise ::
    .work (.move .check) :: List.replicate 2 (.work .proceed) ++ [.cancel, .join]

/-- A short run is shown as it is told, and the visit to it ends with all of it
printed. -/
theorem play_tells_report_errand :
    ∃ report, (Simulator.ofConfig {}).execute errand ahead = .ok report ∧
      headless {} errand ahead = .text (report.toJson.pretty ++ "\n") ∧
      (play {} errand ahead).output =
        "Errand (Easy)\n.#.\nSG.\n.#.\n[   0] (1, 1) →  Moved to (1, 1)\n" ++
          "[   1] (1, 1) →  ✅ Goal reached!\nRun completed in 1 steps\n🎉 Goal reached!\n" ∧
      ∃ w, Watching.actAll visit (.begin errand (.ofReport report {} true)) = some w ∧
        w.viewer = .done ∧ w.output = (play {} errand ahead).output ∧
        w.worker.observed.playback.sink = some [⟨true, 1⟩] := by
  have hs : errand.grid.findStart = .ok ⟨0, 1⟩ := rfl
  let report := (Engine.run {} ahead
    (.init errand.grid ⟨0, 1⟩ errand.goal ({} : EngineConfig).maxSteps)).report ⟨0, 1⟩
  have h : (Simulator.ofConfig {}).execute errand ahead = .ok report :=
    Engine.execute_of_findStart {} hs errand.goal ahead
  have htranscript : transcript errand report =
      "Errand (Easy)\n.#.\nSG.\n.#.\n[   0] (1, 1) →  Moved to (1, 1)\n" ++
        "[   1] (1, 1) →  ✅ Goal reached!\nRun completed in 1 steps\n🎉 Goal reached!\n" := by
    decide +kernel
  have hresult : report.result = ⟨true, 1⟩ := by decide +kernel
  have hvisit : (Watching.actAll visit (.begin errand (.ofReport report {} true))).any
      (·.viewer = .done) = true := by
    decide +kernel
  obtain ⟨w, hacts, hdone⟩ := (Option.any_eq_true _ _).mp hvisit
  have hdone : w.viewer = .done := of_decide_eq_true hdone
  obtain ⟨hheadless, houtput, -, -, -, hall⟩ := play_tells_report h
  obtain ⟨hprinted, hsink⟩ := (hall visit w hacts).whole (by rw [hdone]; decide)
  exact ⟨report, h, hheadless, houtput.trans htranscript, w, hacts, hdone,
    hprinted.trans houtput.symm, by rw [hsink, hresult]⟩

end MazeRobot.Program

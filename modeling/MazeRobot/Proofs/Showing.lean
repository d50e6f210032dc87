import MazeRobot.Program
import MazeRobot.Proofs.Performance

/-!
# What is shown of a run

The program shows a run as a transcript: the title and the maze, one line for
each record of the report, the result, and a line more for a success. It stops
reading at the last event of the story that the playback tells, which is the
result of a failure and the end of the celebration of a success. No event
before is taken for the last one, and the last one comes.
-/

namespace MazeRobot.Program

open Playback (Tells story recital finale)

/-- All that is to be shown of a run. -/
def transcript (puzzle : Puzzle) (report : Report) : String :=
  heading puzzle ++ String.join (report.trace.toList.mapIdx recordLine) ++
    resultLine report.result ++ (if report.result.completed then celebrationLine else "")

/-- What is shown of the story is what is shown of its records and its
result. -/
theorem join_story (report : Report) :
    String.join ((story report).map eventText) =
      String.join (report.trace.toList.mapIdx recordLine) ++ (resultLine report.result ++
        (if report.result.completed then celebrationLine else "")) := by
  have hrecords : (recital report).map eventText = report.trace.toList.mapIdx recordLine := by
    refine List.ext_getElem? fun i => ?_
    rw [recital, List.getElem?_map, List.getElem?_mapIdx, List.getElem?_mapIdx, Option.map_map]
    rfl
  have hfinale : String.join ((finale report).map eventText) = resultLine report.result ++
      (if report.result.completed then celebrationLine else "") := by
    rw [finale]
    cases report.result.completed <;> simp [eventText]
  rw [story, List.map_cons, String.join_cons, List.map_append, String.join_append, hrecords,
    hfinale]
  exact String.empty_append

theorem transcript_eq (puzzle : Puzzle) (report : Report) :
    transcript puzzle report = heading puzzle ++ String.join ((story report).map eventText) := by
  rw [join_story, transcript, String.append_assoc, String.append_assoc]

/-- The story has one last event, at its end. -/
theorem exists_story_eq (report : Report) :
    ∃ before event, story report = before ++ [event] ∧ isLast event = true ∧
      ∀ e ∈ before, isLast e = false := by
  have hrecord : ∀ e ∈ recital report, isLast e = false := by
    intro e he
    obtain ⟨i, hi, rfl⟩ := List.mem_mapIdx.mp he
    rfl
  cases completed : report.result.completed with
  | true =>
    refine ⟨.changed .idle .playing :: (recital report ++ [.changed .playing .finished,
      .finished report.result, .celebrationStarted]), .celebrationEnded, ?_, rfl, ?_⟩
    · simp [story, finale, completed]
    · simp only [List.mem_cons, List.mem_append, List.not_mem_nil, or_false]
      rintro e (rfl | he | rfl | rfl | rfl)
      · rfl
      · exact hrecord e he
      · rfl
      · rw [isLast, completed]; rfl
      · rfl
  | false =>
    refine ⟨.changed .idle .playing :: (recital report ++ [.changed .playing .finished]),
      .finished report.result, ?_, ?_, ?_⟩
    · simp [story, finale, completed]
    · rw [isLast, completed]; rfl
    · simp only [List.mem_cons, List.mem_append, List.not_mem_nil, or_false]
      rintro e (rfl | he | rfl)
      · rfl
      · exact hrecord e he
      · rfl

/-- Of a beginning of the story, only the whole story has a last event. -/
theorem exists_isLast_iff {report : Report} {events : List Playback.Event}
    (h : events <+: story report) : (∃ e ∈ events, isLast e = true) ↔ events = story report := by
  obtain ⟨before, event, hstory, hlast, hbefore⟩ := exists_story_eq report
  constructor
  · rintro ⟨e, he, hisLast⟩
    rw [hstory] at h ⊢
    refine (List.prefix_concat_iff.mp h).resolve_right fun hp => ?_
    rw [hbefore e (hp.subset he)] at hisLast
    cases hisLast
  · rintro rfl
    exact ⟨event, by rw [hstory]; simp, hlast⟩

end MazeRobot.Program

namespace MazeRobot.Session

open Playback (HandedIn Tells story)
open Program (isLast)

section UpTo

variable {wanted : Playback.Event → Bool} {before : List Playback.Event}

theorem upTo_of_unwanted (h : ∀ e ∈ before, wanted e = false) : upTo wanted before = none := by
  induction before with
  | nil => rfl
  | cons event later ih =>
    obtain ⟨hevent, hlater⟩ := List.forall_mem_cons.mp h
    rw [upTo, hevent, ih hlater]
    rfl

/-- Everything up to a wanted event behind unwanted ones is read. -/
theorem upTo_append_singleton (h : ∀ e ∈ before, wanted e = false) {event : Playback.Event}
    (hevent : wanted event = true) : upTo wanted (before ++ [event]) = some (before ++ [event]) := by
  induction before with
  | nil => rw [List.nil_append, upTo, if_pos hevent]
  | cons first later ih =>
    obtain ⟨hfirst, hlater⟩ := List.forall_mem_cons.mp h
    rw [List.cons_append, upTo, hfirst, ih hlater]
    rfl

end UpTo

/-- A session that nobody sends anything to, at the beginning of a round. -/
structure Undisturbed (report : Report) (s : Session) : Prop where
  /-- The playback tells its story. -/
  tells : Tells report s.sent.toList s.playback
  /-- The result is handed in with it. -/
  handed : HandedIn report s.sent.toList s.playback
  /-- The worker is about to look at the flag. -/
  stage : s.stage = .checking
  /-- There is nothing to take. -/
  queue : s.queue = []
  /-- The flag is down. -/
  down : s.cancelled = false

namespace Undisturbed

variable {report : Report} {s : Session}

/-- The worker goes to sleep at once. -/
theorem rest_eq (h : Undisturbed report s) : s.rest = { s with stage := .waiting } := by
  have hmove : s.move .check = some { s with stage := .waiting } := by
    rw [move, if_pos h.stage, if_neg (ne_true_of_eq_false h.down)]
  have hturns : 2 * s.queue.length + 1 = 1 := by rw [h.queue]; rfl
  rw [rest, hturns, serve, h.stage]
  simp only [tryMove, hmove, Option.getD_some, serve]

/-- The timer wakes a worker that sleeps, whatever was read by then, and the
story goes on. -/
theorem timer (h : Undisturbed report s) {due : Span} (hdue : s.playback.timeUntilNext = some due)
    (seen : Nat) :
    ∃ s', ({ s with stage := .waiting, seen := seen } : Session).tryMove (.timer due) = s' ∧
      Undisturbed report s' ∧ s'.playback.timers < s.playback.timers ∧ s'.seen = seen ∧
      s.sent.toList <+: s'.sent.toList := by
  refine ⟨_, rfl, ?_⟩
  have hmove : ({ s with stage := .waiting, seen := seen } : Session).move (.timer due) =
      some (({ s with stage := .waiting, seen := seen } : Session).wake due []) := by
    rw [move, if_pos ⟨rfl, by rw [hdue]; rfl⟩]
  have hperform : Playback.performAll [.advance due] s.playback = s.playback.advance due :=
    congrArg (_, ·) (List.append_nil _)
  have hnext := h.tells.advance due
  have hhanded := Playback.perform_keep Playback.Shift.handedIn _ h.handed (.advance due)
  have hless := Playback.timers_advance_lt h.tells hdue (Nat.le_refl _)
  rw [tryMove, hmove, Option.getD_some, wake, forward, hperform]
  refine ⟨⟨?_, ?_, rfl, h.queue, h.down⟩, hless, rfl, ?_⟩
  · rw [Array.toList_appendList]
    exact hnext
  · rw [Array.toList_appendList]
    exact hhanded
  · rw [Array.toList_appendList]
    exact List.prefix_append _ _

end Undisturbed

/-- A session that has told its story is read to the end of it. -/
theorem await_of_told {report : Report} {s : Session} (h : Undisturbed report s)
    (hrest : s.playback.timeUntilNext = none) (hopen : s.seen < (story report).length)
    (count : Nat) (before : Span) :
    (await isLast count before s).1.flatMap (·.2) = (story report).drop s.seen ∧
      (await isLast count before s).2.playback.sink = some [report.result] := by
  obtain ⟨earlier, last, hstory, hlast, hearlier⟩ := Program.exists_story_eq report
  obtain ⟨hsent, -⟩ := h.tells.eq_story hrest
  have hunread : ({ s with stage := .waiting } : Session).unread =
      earlier.drop s.seen ++ [last] := by
    rw [hstory, List.length_append, List.length_singleton] at hopen
    rw [unread, hsent, hstory, List.drop_append_of_le_length (Nat.le_of_lt_succ hopen)]
  have hupTo : upTo isLast (earlier.drop s.seen ++ [last]) = some (earlier.drop s.seen ++ [last]) :=
    upTo_append_singleton (fun e he => hearlier e (List.mem_of_mem_drop he)) hlast
  have hsink := h.handed.sink
  rw [hsent, Playback.any_isFinish_story, if_pos rfl] at hsink
  unfold await
  simp only [h.rest_eq, hunread, hupTo]
  refine ⟨?_, hsink⟩
  rw [List.flatMap_singleton, ← hunread, unread, hsent]

/-- What is read until the last event is all of the story that was not read
before, and with it the result was handed in, if the timer may fire often
enough. -/
theorem await_eq_story {report : Report} {count : Nat} {s : Session} (h : Undisturbed report s)
    (hcount : s.playback.timers ≤ count) (hseen : s.seen ≤ s.sent.size)
    (hopen : s.seen < (story report).length) (before : Span) :
    (await isLast count before s).1.flatMap (·.2) = (story report).drop s.seen ∧
      (await isLast count before s).2.playback.sink = some [report.result] := by
  induction count generalizing s before with
  | zero =>
    refine await_of_told h (Option.eq_none_iff_forall_not_mem.mpr fun due hdue => ?_) hopen 0 before
    have hless := Playback.timers_advance_lt h.tells hdue (Nat.le_refl _)
    omega
  | succ count ih =>
    cases hdue : s.playback.timeUntilNext with
    | none => exact await_of_told h hdue hopen _ before
    | some due =>
      have hlength := h.tells.length_lt hdue
      have hnone : upTo isLast ({ s with stage := .waiting } : Session).unread = none := by
        refine upTo_of_unwanted fun e he => Bool.eq_false_iff.mpr fun hlast => ?_
        have hall := (Program.exists_isLast_iff h.tells.isPrefix).mp
          ⟨e, List.mem_of_mem_drop he, hlast⟩
        rw [hall] at hlength
        exact Nat.lt_irrefl _ hlength
      have hread : s.seen + ({ s with stage := .waiting } : Session).unread.length =
          s.sent.size := by
        rw [unread, List.length_drop, Array.length_toList]
        exact Nat.add_sub_cancel' hseen
      obtain ⟨s', hs', hnext, hless, hseen', hmore⟩ := h.timer hdue s.sent.size
      have hlater := ih hnext (by omega) (by rw [hseen']; exact hmore.length_le)
        (by rw [hseen']; exact hlength) due
      obtain ⟨rest, hstory⟩ := h.tells.isPrefix
      unfold await
      simp only [h.rest_eq, hnone, Session.read, hdue, hread, hs']
      refine ⟨?_, hlater.2⟩
      rw [List.flatMap_cons, hlater.1, hseen', ← hstory, unread, Array.length_toList.symm,
        List.drop_left, List.drop_append_of_le_length hseen]

/-- A session that was just begun with a fresh playback. -/
theorem undisturbed_spawn (report : Report) (config : PlaybackConfig) :
    Undisturbed report (spawn (.ofReport report config true)) where
  tells := by
    rw [spawn, forward, Array.toList_appendList]
    exact (Playback.tells_play report config).1
  handed := by
    rw [spawn, forward, Array.toList_appendList]
    exact Playback.perform_keep Playback.Shift.handedIn []
      (Playback.handedIn_ofReport report config) .play
  stage := rfl
  queue := rfl
  down := rfl

/-- From the beginning, all of the story is read. -/
theorem awaitEvent_eq_story (report : Report) (config : PlaybackConfig) :
    ((spawn (.ofReport report config true)).awaitEvent isLast).1.flatMap (·.2) = story report ∧
      ((spawn (.ofReport report config true)).awaitEvent isLast).2.playback.sink =
        some [report.result] := by
  have h := undisturbed_spawn report config
  have hcount : (spawn (.ofReport report config true)).playback.timers ≤
      (spawn (.ofReport report config true)).rest.playback.remaining + 2 := by
    rw [h.rest_eq]
    exact h.tells.timers_le
  exact await_eq_story h hcount (Nat.zero_le _) (Nat.succ_pos _) .zero

end MazeRobot.Session

namespace MazeRobot.Program

/-- How the events are grouped plays no part in what is shown of them. -/
theorem join_eventPieces (groups : List (Span × List Playback.Event)) :
    String.join ((eventPieces groups).map (·.2)) =
      String.join ((groups.flatMap (·.2)).map eventText) := by
  induction groups with
  | nil => rfl
  | cons group rest ih =>
    rw [eventPieces] at ih ⊢
    rw [List.map_cons, List.map_cons, String.join_cons, ih, List.flatMap_cons, List.map_append,
      String.join_append]

variable {config : Config} {puzzle : Puzzle} {code : String} {report : Report}

theorem headless_of_execute (h : (Simulator.ofConfig config).execute puzzle code = .ok report) :
    headless config puzzle code = .text (report.toJson.pretty ++ "\n") := by
  rw [headless, h]

/-- The program gives the report to a worker. -/
theorem runBeside_of_execute
    (h : (Simulator.ofConfig config).execute puzzle code = .ok report) :
    (Simulator.ofConfig config).runBeside (.command .zero) puzzle code =
      ({ (Simulator.ofConfig config).cancel (.command .zero) with
        session := some (.spawn (.ofReport report config.playback true)) }, .ok ()) := by
  have hexecute : ((Simulator.ofConfig config).cancel (.command .zero)).execute puzzle code =
      .ok report := h
  rw [Simulator.runBeside, hexecute]
  rfl

/-- It shows all of the story. -/
theorem play_of_execute (h : (Simulator.ofConfig config).execute puzzle code = .ok report) :
    (play config puzzle code).output = transcript puzzle report ∧
      (play config puzzle code).fault = none := by
  have hstory := (Session.awaitEvent_eq_story report config.playback).1
  rw [play, runBeside_of_execute h]
  refine ⟨?_, rfl⟩
  rw [Showing.output, List.map_cons, String.join_cons, join_eventPieces, transcript_eq]
  exact congrArg (fun events => heading puzzle ++ String.join (events.map eventText)) hstory

/-- The one taker of the run gets the result once. -/
theorem submissions_of_execute
    (h : (Simulator.ofConfig config).execute puzzle code = .ok report) :
    (((Simulator.ofConfig config).runBeside (.command .zero) puzzle code).1.awaitEvent
      isLast).1.submissions = [[report.result]] := by
  have hsink := (Session.awaitEvent_eq_story report config.playback).2
  have hone : (Session.awaitEvent isLast
      (.spawn (.ofReport report config.playback true))).2.playback.sink.toList =
      [[report.result]] := by rw [hsink]; rfl
  rw [runBeside_of_execute h]
  exact hone

end MazeRobot.Program

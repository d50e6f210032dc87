import MazeRobot.Playback
import MazeRobot.Proofs.Decoding
import MazeRobot.Report.Json

/-!
# Reports are read back

A report that was written, in one line or with one item on a line, is read back
as the very report, whatever outcome it has and whatever characters the lines of
its trace hold. So no two reports are written alike, and playing a stored report
is playing the original.
-/

namespace MazeRobot

open Decoder (Reads ReadsMembers reads_record reads_string reads_uint32 reads_word)

namespace Coord

theorem reads_toJson (c : Coord) : Reads decode c.toJson c :=
  reads_record
    (.cons rfl rfl (Decoder.reads_int32 c.x) <| .cons rfl rfl (Decoder.reads_int32 c.y) <| .nil _)
    rfl

end Coord

namespace Record

theorem reads_toJson (r : Record) : Reads decode r.toJson r :=
  reads_record
    (.cons rfl rfl (reads_word (ActionKind.ofTag?_tag r.kind)) <|
      .cons rfl rfl r.position.reads_toJson <|
      .cons rfl rfl (reads_word (Heading.ofLetter?_letter r.orientation)) <|
      .cons rfl rfl (reads_string r.message) <| .nil _)
    rfl

end Record

namespace Trace

/-- A trace is read back record by record. -/
theorem reads_toJson (t : Trace) : Reads decode t.toJson t := by
  have hlist : Reads (Decoder.list Record.decode) t.toJson t.toList :=
    Decoder.reads_list fun r _ => r.reads_toJson
  refine ⟨hlist.small, ?_⟩
  rw [decode, hlist.scan]
  rfl

end Trace

namespace Outcome

/-- The state that the label of an outcome stands for. -/
def state : Outcome → State
  | completed _ => .completed
  | stepLimitExceeded _ => .stepLimitExceeded
  | parseError _ => .parseError
  | runtimeError _ => .runtimeError

theorem ofTag?_label (o : Outcome) : State.ofTag? o.label = some o.state := by
  cases o <;> rfl

/-- What comes with the state of an outcome is kept until the state is known. -/
theorem keep_detail (o : Outcome) : Decoder.keep keptDepth o.detail.2.scan = .ok () := by
  cases o <;> rfl

theorem detail_ne_state (o : Outcome) : o.detail.1 ≠ "state" := by
  cases o <;> simp [detail]

theorem small_detail (o : Outcome) : o.detail.2.Small := by
  cases o with
  | stepLimitExceeded ticks => exact (reads_uint32 ticks).small
  | completed | parseError | runtimeError => trivial

/-- The only member that was kept is read back under its name. -/
theorem only_members {α : Type} {decode : Decoder α} {j : Json} {a : α} (h : decode.Reads j a)
    (name : String) : (Decoder.Kept.members [(name, j.scan)]).only name decode = .ok a := by
  have hname : [(name, j.scan)].filter (·.1 == name) = [(name, j.scan)] := by simp
  simp only [Decoder.Kept.only, hname, h.scan]

/-- The member that is kept makes the outcome, once the state is known. -/
theorem ofKept_detail (o : Outcome) :
    ofKept (.members [(o.detail.1, o.detail.2.scan)]) o.state = .ok o := by
  cases o with
  | completed via =>
    have hvia := only_members (Decoder.reads_keptWord (Termination.ofTag?_tag via)) "via"
    exact congrArg (· >>= fun via => pure (completed via)) hvia
  | stepLimitExceeded ticks =>
    have hticks := only_members (reads_uint32 ticks) "ticks"
    exact congrArg (· >>= fun ticks => pure (stepLimitExceeded ticks)) hticks
  | parseError message =>
    have hmessage := only_members (reads_string message) "message"
    exact congrArg (· >>= fun message => pure (parseError message)) hmessage
  | runtimeError message =>
    have hmessage := only_members (reads_string message) "message"
    exact congrArg (· >>= fun message => pure (runtimeError message)) hmessage

/-- An outcome is read back by its state, whichever it is. -/
theorem reads_toJson (o : Outcome) : Reads decode o.toJson o := by
  have hstate : Decoder.tagWord State.ofTag? (.text (.ok o.label)) = .ok o.state :=
    (Decoder.reads_tagWord o.ofTag?_label).scan
  refine ⟨⟨trivial, o.small_detail, trivial⟩, ?_⟩
  have htagged : Decoder.tagged "state" (Decoder.tagWord State.ofTag?) keptDepth o.toJson.scan =
      .ok (o.state, .members [(o.detail.1, o.detail.2.scan)]) := by
    simp [toJson, Json.scan, Json.scanMembers, Decoder.tagged, Decoder.taggedMembers, hstate,
      o.detail_ne_state, o.keep_detail]
  rw [decode, htagged]
  exact o.ofKept_detail

end Outcome

namespace RunResult

theorem reads_toJson (r : RunResult) : Reads decode r.toJson r :=
  reads_record
    (.cons rfl rfl (Decoder.reads_bool r.completed) <| .cons rfl rfl (reads_uint32 r.steps) <|
      .nil _)
    rfl

end RunResult

namespace Report

theorem reads_toJson (r : Report) : Reads decode r.toJson r :=
  reads_record
    (.cons rfl rfl r.outcome.reads_toJson <| .cons rfl rfl r.result.reads_toJson <|
      .cons rfl rfl r.start.reads_toJson <| .cons rfl rfl r.goal.reads_toJson <|
      .cons rfl rfl (reads_uint32 r.ticks) <| .cons rfl rfl r.trace.reads_toJson <| .nil _)
    rfl

/-- A report is read back from what was written for it in either layout, so the
same text was written for no other report. Whatever is then done with a playback
of what was read, it does what a playback of the report does. -/
theorem text_decode_toJson (r : Report) :
    (Decoder.text decode r.toJson.compact = .ok r ∧ Decoder.text decode r.toJson.pretty = .ok r) ∧
      (∀ other : Report, (other.toJson.compact = r.toJson.compact ↔ other = r) ∧
        (other.toJson.pretty = r.toJson.pretty ↔ other = r)) ∧
      ∀ (config : PlaybackConfig) (taken : Bool) (ops : List Playback.Operation),
        (Decoder.text decode r.toJson.compact).map
            (fun stored => Playback.performAll ops (.ofReport stored config taken)) =
          .ok (Playback.performAll ops (.ofReport r config taken)) ∧
        (Decoder.text decode r.toJson.pretty).map
            (fun stored => Playback.performAll ops (.ofReport stored config taken)) =
          .ok (Playback.performAll ops (.ofReport r config taken)) := by
  have hcompact (other : Report) : Decoder.text decode other.toJson.compact = .ok other :=
    other.reads_toJson.compact
  have hpretty (other : Report) : Decoder.text decode other.toJson.pretty = .ok other :=
    other.reads_toJson.pretty
  refine ⟨⟨hcompact r, hpretty r⟩, fun other => ⟨⟨fun same => ?_, fun same => ?_⟩,
    ⟨fun same => ?_, fun same => ?_⟩⟩, fun config taken ops => ⟨?_, ?_⟩⟩
  · have hread := hcompact other
    rw [same, hcompact r] at hread
    exact (Except.ok.inj hread).symm
  · rw [same]
  · have hread := hpretty other
    rw [same, hpretty r] at hread
    exact (Except.ok.inj hread).symm
  · rw [same]
  · rw [hcompact r, Except.map]
  · rw [hpretty r, Except.map]

end Report

end MazeRobot

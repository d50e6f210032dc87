import MazeRobot.Proofs.Grid
import MazeRobot.Robot.Primitives

/-!
# Asides leave no trace but their lines

What a robot replies, what it does and what it writes about it does not depend on
what it wrote before: with more in its trace it behaves as it does without. An
aside writes lines and changes nothing else. So asides can be left out of any
sequence of calls: the other calls have the replies and records that they had, and
the robot ends as it did, even where the budget is used up in between. All that is
missing from its trace are the lines of the asides.
-/

namespace MazeRobot

namespace Trace

/-- One trace and then another. -/
def followedBy (t u : Trace) : Trace :=
  ⟨t.records ++ u.records⟩

@[simp] theorem toList_followedBy (t u : Trace) :
    (t.followedBy u).toList = t.toList ++ u.toList :=
  Array.toList_append

theorem followedBy_push (t u : Trace) (record : Record) :
    (t.followedBy u).push record = t.followedBy (u.push record) :=
  congrArg Trace.mk Array.append_push.symm

@[simp] theorem followedBy_empty (t : Trace) : t.followedBy .empty = t :=
  congrArg Trace.mk Array.append_empty

end Trace

namespace Robot

/-! ### What was written before -/

/-- The robot as it would be with more in its trace, before all else. -/
def withPast (r : Robot) (past : Trace) : Robot :=
  { r with trace := past.followedBy r.trace }

section Past

variable (r : Robot) (past : Trace)

theorem silent_withPast : r.silent.withPast r.trace = r := by
  rw [withPast, silent, Trace.followedBy_empty]

theorem withPast_silent : (r.withPast past).silent = r.silent := rfl

theorem record_withPast (kind : ActionKind) (message : String) :
    (r.withPast past).record kind message = (r.record kind message).withPast past := by
  simp only [record, withPast, Trace.followedBy_push]

theorem note_withPast (message : String) :
    (r.withPast past).note message = (r.note message).withPast past :=
  r.record_withPast past .log message

theorem advance_withPast : (r.withPast past).advance = r.advance.withPast past :=
  record_withPast { r with
    position := r.project .front
    steps := r.steps + 1
    visits := r.visits.visit (r.project .front) } past .move _

theorem rotate_withPast (t : Turn) : (r.withPast past).rotate t = (r.rotate t).withPast past :=
  record_withPast { r with heading := r.heading.turned t, steps := r.steps + 1 } past .turn _

theorem moveTimes_withPast (count : Nat) :
    moveTimes count (r.withPast past) =
      ((moveTimes count r).1.withPast past, (moveTimes count r).2) := by
  induction count generalizing r with
  | zero => rfl
  | succ count ih =>
    -- Neither the budget nor the way is looked up in the trace.
    have hexhausted : (r.withPast past).exhausted = r.exhausted := rfl
    have hfree : (r.withPast past).grid.isPassable ((r.withPast past).project .front) =
        r.grid.isPassable (r.project .front) := rfl
    rw [moveTimes, moveTimes, hexhausted, hfree]
    split
    · rfl
    split
    · rw [advance_withPast, ih]
    · rw [note_withPast]

theorem turn_withPast (t : Turn) :
    (r.withPast past).turn t = ((r.turn t).1.withPast past, (r.turn t).2) := by
  have hexhausted : (r.withPast past).exhausted = r.exhausted := rfl
  rw [turn, turn, hexhausted]
  split
  · rfl
  · rw [rotate_withPast]

/-- What was written before has no part in what a call does. -/
theorem perform_withPast (p : Primitive) :
    (r.withPast past).perform p = ((r.perform p).1.withPast past, (r.perform p).2) := by
  cases p with
  | moveForward count =>
    simp only [perform, moveForward]
    split
    · rw [note_withPast]
    · exact r.moveTimes_withPast past _
  | turn t => exact r.turn_withPast past t
  | turnNamed word =>
    simp only [perform, turnNamed]
    split
    · exact r.turn_withPast past _
    · rw [note_withPast]
  | relativeNamed word =>
    simp only [perform, relativeNamed]
    split
    · rfl
    · rw [note_withPast]
  | neighbourNamed word =>
    simp only [perform, neighbourNamed]
    split
    · rfl
    · rw [note_withPast]
  | ask q => cases q <;> rfl
  | log text => exact congrArg (·, ()) (r.note_withPast past _)
  | note message => exact congrArg (·, ()) (r.note_withPast past message)
  | finish => rfl

/-- A call is answered as with an empty trace, and what is written goes behind what
was written before. -/
theorem perform_eq (p : Primitive) :
    r.perform p = ((r.silent.perform p).1.withPast r.trace, (r.silent.perform p).2) := by
  rw [← perform_withPast, silent_withPast]

theorem toList_perform_silent (p : Primitive) :
    (r.perform p).1.trace.toList = r.trace.toList ++ (r.silent.perform p).1.trace.toList := by
  rw [perform_eq]
  exact Trace.toList_followedBy _ _

/-- The episode of a call is the one that it would be with an empty trace. -/
theorem episode_silent (p : Primitive) : r.silent.episode p = r.episode p := by
  have hreply : (r.silent.perform p).2 = (r.perform p).2 := by rw [perform_eq r]
  have hrecords : (r.silent.perform p).1.trace.toList =
      (r.perform p).1.trace.toList.drop r.trace.length := by
    rw [toList_perform_silent r, Trace.length, ← Array.length_toList]
    exact List.drop_left.symm
  rw [episode, episode, ← hreply, ← hrecords]
  rfl

/-- A call adds the records of its episode to the trace. -/
theorem toList_perform (p : Primitive) :
    (r.perform p).1.trace.toList = r.trace.toList ++ (r.episode p).records := by
  rw [toList_perform_silent, ← episode_silent]
  rfl

theorem silent_perform (p : Primitive) :
    (r.silent.perform p).1.silent = (r.perform p).1.silent := by
  rw [perform_eq r, withPast_silent]

end Past

/-- The trace of a run is what was there before, and then the records of its
episodes. -/
theorem toList_performAll (calls : List Primitive) (r : Robot) :
    (performAll calls r).1.trace.toList =
      r.trace.toList ++ (performAll calls r).2.flatMap Episode.records := by
  induction calls generalizing r with
  | nil => exact (List.append_nil _).symm
  | cons p rest ih =>
    rw [performAll, List.flatMap_cons, ← List.append_assoc, ← toList_perform]
    exact ih _

/-- There is one episode for each call. -/
theorem map_primitive_performAll (calls : List Primitive) (r : Robot) :
    (performAll calls r).2.map Episode.primitive = calls := by
  induction calls generalizing r with
  | nil => rfl
  | cons p rest ih => exact congrArg (List.cons p) (ih _)

/-! ### Asides -/

/-- An aside writes one line at most. -/
theorem perform_of_isAside {p : Primitive} (h : p.isAside = true) (r : Robot) :
    (r.perform p).1 = r ∨ ∃ message, (r.perform p).1 = r.note message := by
  cases p with
  | moveForward count => exact .inr ⟨_, congrArg Prod.fst (if_pos (of_decide_eq_true h))⟩
  | turn t => cases h
  | turnNamed word =>
    have hword : Turn.ofWord? word = none := Option.isNone_iff_eq_none.mp h
    exact .inr ⟨_, by rw [perform, turnNamed, hword]⟩
  | relativeNamed word =>
    simp only [perform, relativeNamed]
    split
    · exact .inl rfl
    · exact .inr ⟨_, rfl⟩
  | neighbourNamed word =>
    simp only [perform, neighbourNamed]
    split
    · exact .inl rfl
    · exact .inr ⟨_, rfl⟩
  | ask q => exact .inl rfl
  | log text => exact .inr ⟨_, rfl⟩
  | note message => exact .inr ⟨message, rfl⟩
  | finish => cases h

theorem silent_of_isAside {p : Primitive} (h : p.isAside = true) (r : Robot) :
    (r.perform p).1.silent = r.silent := by
  rcases perform_of_isAside h r with hr | ⟨message, hr⟩ <;> rw [hr]
  rfl

/-- All that is recorded of an aside are lines. -/
theorem kind_of_isAside {p : Primitive} (h : p.isAside = true) (r : Robot) :
    ∀ record ∈ (r.episode p).records, record.kind = .log := by
  have hrecords := r.toList_perform p
  rcases perform_of_isAside h r with hr | ⟨message, hr⟩ <;> rw [hr] at hrecords
  · rw [List.self_eq_append_right.mp hrecords]
    exact List.forall_mem_nil _
  · rw [toList_note, List.append_cancel_left_eq] at hrecords
    rw [← hrecords]
    exact List.forall_mem_singleton.mpr rfl

end Robot

/-! ### Leaving out -/

/-- A list of which a part is left out: what is marked is kept. -/
abbrev Abridged (α : Type) : Type := List (α × Bool)

namespace Abridged

variable {α β : Type}

/-- The list before anything is left out. -/
def whole (l : Abridged α) : List α :=
  l.map Prod.fst

/-- What is kept. -/
def kept (l : Abridged α) : List α :=
  (l.filter Prod.snd).map Prod.fst

/-- What is left out. -/
def omitted (l : Abridged α) : List α :=
  (l.filter (!·.2)).map Prod.fst

/-- Another list with the same places left out. -/
def likewise (l : Abridged α) (other : List β) : Abridged β :=
  other.zip (l.map Prod.snd)

theorem whole_likewise {l : Abridged α} {other : List β} (h : other.length = l.length) :
    (l.likewise other).whole = other := by
  have hfit : other.length = (l.map Prod.snd).length := h.trans (List.length_map _).symm
  exact List.map_fst_zip (Nat.le_of_eq hfit)

/-- A part that only adds what does not pass a filter is not missed behind it. -/
theorem filter_flatMap_kept {l : Abridged α} {f : α → List β} {q : β → Bool}
    (h : ∀ a ∈ l.omitted, ∀ b ∈ f a, q b = false) :
    (l.kept.flatMap f).filter q = (l.whole.flatMap f).filter q := by
  induction l with
  | nil => rfl
  | cons first rest ih =>
    obtain ⟨a, keep⟩ := first
    cases keep with
    | true =>
      have hrest := ih h
      simp only [kept, whole, List.filter_cons, if_true, List.map_cons, List.flatMap_cons,
        List.filter_append] at hrest ⊢
      rw [hrest]
    | false =>
      obtain ⟨ha, hothers⟩ := List.forall_mem_cons.mp h
      have hnone : (f a).filter q = [] :=
        List.filter_eq_nil_iff.mpr fun b hb => ne_true_of_eq_false (ha b hb)
      rw [show whole ((a, false) :: rest) = a :: whole rest from rfl, List.flatMap_cons,
        List.filter_append, hnone]
      exact ih hothers

end Abridged

namespace Robot

/-- What becomes of a run when some of its calls are left out. -/
structure Undisturbed (calls : Abridged Primitive) (whole cut : Robot × List Episode) : Prop where
  /-- The other calls have the replies and the records that they had. -/
  episodes : cut.2 = (calls.likewise whole.2).kept
  /-- The robot ends as it did, but for its trace. -/
  robot : cut.1.silent = whole.1.silent
  /-- All that was recorded of the calls that are left out are lines. -/
  lines : ∀ e ∈ (calls.likewise whole.2).omitted, ∀ record ∈ e.records, record.kind = .log

/-- Asides can be left out, also if what was written before is not the same. -/
theorem undisturbed_performAll {calls : Abridged Primitive}
    (h : ∀ p ∈ calls.omitted, p.isAside = true) {r s : Robot} (hrs : s.silent = r.silent) :
    Undisturbed calls (performAll calls.whole r) (performAll calls.kept s) := by
  induction calls generalizing r s with
  | nil => exact ⟨rfl, hrs, List.forall_mem_nil _⟩
  | cons first rest ih =>
    obtain ⟨p, keep⟩ := first
    -- A call that is kept meets two robots that are the same but for their traces; an
    -- aside meets the first one alone, and leaves them so.
    cases keep with
    | true =>
      have hepisode : s.episode p = r.episode p := by
        rw [← episode_silent, hrs, episode_silent]
      have hafter : (s.perform p).1.silent = (r.perform p).1.silent := by
        rw [← silent_perform, hrs, silent_perform]
      have hrest := ih h hafter
      exact ⟨List.cons_eq_cons.mpr ⟨hepisode, hrest.episodes⟩, hrest.robot, hrest.lines⟩
    | false =>
      obtain ⟨haside, hothers⟩ := List.forall_mem_cons.mp h
      have hrest := ih hothers (hrs.trans (silent_of_isAside haside r).symm)
      exact ⟨hrest.episodes, hrest.robot,
        List.forall_mem_cons.mpr ⟨kind_of_isAside haside r, hrest.lines⟩⟩

/-- Asides can be left out of any sequence of calls to a fresh robot, in any places.
The other calls have the replies and records that they had, and the robot ends as it
did: where it stood, as it faced, after as many steps, with the same memory, as done
and as refused as before. Its trace is that of the whole run without the lines of the
asides, so its moves and turns are recorded as they were. -/
theorem performAll_kept (grid : Grid) (start goal : Coord) (maxSteps : UInt32)
    (calls : Abridged Primitive) (h : ∀ p ∈ calls.omitted, p.isAside = true) :
    let whole := performAll calls.whole (init grid start goal maxSteps)
    let cut := performAll calls.kept (init grid start goal maxSteps)
    Undisturbed calls whole cut ∧
      whole.1.trace.toList = (calls.likewise whole.2).whole.flatMap Episode.records ∧
      cut.1.trace.toList = (calls.likewise whole.2).kept.flatMap Episode.records ∧
      cut.1.trace.toList.filter Record.isStep = whole.1.trace.toList.filter Record.isStep := by
  intro whole cut
  have hundisturbed : Undisturbed calls whole cut := undisturbed_performAll h rfl
  have hlength : whole.2.length = calls.length := by
    rw [← List.length_map, map_primitive_performAll, Abridged.whole, List.length_map]
  have hwhole : whole.1.trace.toList = (calls.likewise whole.2).whole.flatMap Episode.records := by
    rw [Abridged.whole_likewise hlength]
    exact toList_performAll _ _
  have hcut : cut.1.trace.toList = (calls.likewise whole.2).kept.flatMap Episode.records := by
    rw [← hundisturbed.episodes]
    exact toList_performAll _ _
  refine ⟨hundisturbed, hwhole, hcut, ?_⟩
  rw [hcut, hwhole]
  refine Abridged.filter_flatMap_kept fun e he record hrecord => ?_
  rw [Record.isStep, hundisturbed.lines e he record hrecord]
  rfl

/-- A robot that talks, asks for the senseless and looks around on its way. -/
def chatter : Abridged Primitive :=
  [(.log "go", false), (.moveForward 1, true), (.turnNamed "back", false),
    (.ask (.visitCount .here), true), (.moveForward 0, false), (.relativeNamed "up", false),
    (.moveForward 2, true), (.ask .visitedCells, false)]

/-- Four lines are missing from the trace of one that keeps to itself, and its last move
is refused at the same cell. -/
theorem performAll_kept_chatter :
    let whole := performAll chatter.whole (init .crossing ⟨0, 1⟩ ⟨2, 2⟩ 2)
    let cut := performAll chatter.kept (init .crossing ⟨0, 1⟩ ⟨2, 2⟩ 2)
    (∀ p ∈ chatter.omitted, p.isAside = true) ∧ Undisturbed chatter whole cut ∧
      whole.1.trace.length = 6 ∧ cut.1.trace.length = 2 ∧ cut.1.position = ⟨2, 1⟩ ∧
      cut.1.refused = true ∧
      cut.1.trace.toList.filter Record.isStep = whole.1.trace.toList.filter Record.isStep := by
  intro whole cut
  have hasides : ∀ p ∈ chatter.omitted, p.isAside = true := by decide
  obtain ⟨hundisturbed, -, -, hsteps⟩ :=
    performAll_kept .crossing ⟨0, 1⟩ ⟨2, 2⟩ 2 chatter hasides
  exact ⟨hasides, hundisturbed, by decide, by decide, by decide, by decide, hsteps⟩

end Robot

end MazeRobot

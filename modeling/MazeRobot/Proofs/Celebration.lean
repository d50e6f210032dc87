import MazeRobot.Proofs.Cancellation
import MazeRobot.Proofs.Tempo
import Mathlib.Data.List.Chain

/-!
# Celebrations

A success that was played to its end is celebrated for a while. The events tell of
celebrations that begin and end in turn, and each begins right behind a natural end.
Once it has begun, a celebration runs on its own time: it ends at the advance at which
the time since it began reaches its length, or before that if the playback is
cancelled, put back or rewound, and nothing else that is done with the playback makes
it longer or shorter.
-/

namespace MazeRobot

namespace Span

theorem sub_zero (s : Span) : s.sub .zero = s := rfl

theorem zero_add (s : Span) : Span.zero.add s = s :=
  congrArg Span.mk (Nat.zero_add s.nanos)

end Span

namespace Playback

/-- Whether an event tells of a celebration. -/
def Event.isCelebration : Event → Bool
  | .celebrationStarted | .celebrationEnded => true
  | _ => false

/-- The events among some that tell of celebrations. -/
def celebrations (events : List Event) : List Event :=
  events.filter Event.isCelebration

theorem celebrations_append (earlier later : List Event) :
    celebrations (earlier ++ later) = celebrations earlier ++ celebrations later :=
  List.filter_append earlier later

theorem celebrations_moveTo (p : Playback) (after : State) :
    celebrations (p.moveTo after).2 = [] := by
  unfold moveTo
  split <;> rfl

/-- A success begins to be celebrated. -/
theorem celebrate_of_completed {p : Playback} (h : p.report.result.completed = true) :
    p.celebrate = ({ p with
        celebrationLeft := some p.config.celebrationSpan
        view := { p.view with celebrating := true } },
      [.celebrationStarted]) :=
  if_pos h

/-- Nothing else is celebrated. -/
theorem celebrate_of_not_completed {p : Playback} (h : ¬p.report.result.completed = true) :
    p.celebrate = (p, []) :=
  if_neg h

/-- A celebration that is going on ends. -/
theorem endCelebration_of_on {p : Playback} {left : Span} (on : p.celebrationLeft = some left) :
    p.endCelebration =
      ({ p with celebrationLeft := none, view := { p.view with celebrating := false } },
        [.celebrationEnded]) := by
  rw [endCelebration, on]

/-! ### In turn -/

section Turns

variable {report : Report} {op : Operation} {p : Playback} {c : Change} {events : List Event}

/-- An elementary change tells of no celebration and leaves it as it is, or tells that
one begins where there was none, or that the one that there was is over. -/
theorem Shift.celebrations_cases (h : Shift op p c) (hp : Faithful report p) :
    (celebrations c.2 = [] ∧ c.1.isCelebrating = p.isCelebrating) ∨
      (celebrations c.2 = [.celebrationStarted] ∧ p.isCelebrating = false ∧
        c.1.isCelebrating = true) ∨
      (celebrations c.2 = [.celebrationEnded] ∧ p.isCelebrating = true ∧
        c.1.isCelebrating = false) := by
  cases h with
  | shorten on left => exact .inl ⟨rfl, on.symm⟩
  | quiet on => exact .inr (.inr ⟨rfl, on, rfl⟩)
  | finish playing all =>
    have hreport : p.ended.report = p.report := by rw [ended_eq]
    by_cases hcompleted : p.report.result.completed = true
    · have off := hp.celebrationLeft_of_state (playing.trans_ne State.noConfusion)
      rw [celebrate_of_completed (hreport ▸ hcompleted)]
      refine .inr (.inl ⟨rfl, ?_, rfl⟩)
      rw [isCelebrating, off]
      rfl
    · rw [celebrate_of_not_completed (hreport ▸ hcompleted)]
      refine .inl ⟨rfl, ?_⟩
      rw [ended_eq]
      rfl
  | rewind held off =>
    rw [celebrations_append, celebrations_moveTo, moveTo_eq]
    exact .inl ⟨rfl, rfl⟩
  | _ => exact .inl ⟨rfl, rfl⟩

/-- Celebrations begin and end in turn. -/
structure Bracketed (report : Report) (events : List Event) (p : Playback) : Prop where
  /-- The playback follows its report. -/
  faithful : Faithful report p
  /-- No beginning follows a beginning and no end an end. -/
  turns : (celebrations events).IsChain (· ≠ ·)
  /-- The first is a beginning. -/
  begins : ∀ event ∈ (celebrations events).head?, event = .celebrationStarted
  /-- The last is a beginning exactly during a celebration. -/
  ongoing : (celebrations events).getLast? = some .celebrationStarted ↔ p.isCelebrating = true

theorem bracketed_ofReport (report : Report) (config : PlaybackConfig) (taken : Bool) :
    Bracketed report [] (ofReport report config taken) where
  faithful := faithful_ofReport report config taken
  turns := .nil
  begins := nofun
  ongoing := iff_of_false nofun nofun

/-- Elementary changes keep the turns. -/
theorem Shift.bracketed (hc : Shift op p c) (h : Bracketed report events p) :
    Bracketed report (events ++ c.2) c.1 := by
  have hfaithful := hc.faithful h.faithful
  obtain ⟨htold, hsame⟩ | ⟨htold, off, on⟩ | ⟨htold, on, off⟩ :=
    hc.celebrations_cases h.faithful
  · refine ⟨hfaithful, ?_, ?_, ?_⟩ <;> rw [celebrations_append, htold, List.append_nil]
    · exact h.turns
    · exact h.begins
    · rw [hsame]
      exact h.ongoing
  · -- Nothing is being celebrated, so the last event is no beginning.
    have hlast : (celebrations events).getLast? ≠ some .celebrationStarted := fun hlast =>
      Bool.false_ne_true (off.symm.trans (h.ongoing.mp hlast))
    refine ⟨hfaithful, ?_, ?_, ?_⟩ <;> rw [celebrations_append, htold]
    · refine h.turns.append (.singleton _) fun last hl first hf => ?_
      obtain rfl := Option.some.inj hf
      rintro rfl
      exact hlast hl
    · intro event hevent
      rw [List.head?_append] at hevent
      obtain hfirst | ⟨-, hnew⟩ := Option.or_eq_some_iff.mp hevent
      · exact h.begins event hfirst
      · exact (Option.some.inj hnew).symm
    · exact iff_of_true List.getLast?_concat on
  · have hlast := h.ongoing.mpr on
    refine ⟨hfaithful, ?_, ?_, ?_⟩ <;> rw [celebrations_append, htold]
    · refine h.turns.append (.singleton _) fun last hl first hf => ?_
      rw [hlast] at hl
      obtain rfl := Option.some.inj hl
      obtain rfl := Option.some.inj hf
      exact nofun
    · intro event hevent
      rw [List.head?_append] at hevent
      obtain hfirst | ⟨hnone, -⟩ := Option.or_eq_some_iff.mp hevent
      · exact h.begins event hfirst
      · rw [List.head?_eq_none_iff.mp hnone] at hlast
        cases hlast
    · rw [List.getLast?_concat, off]
      exact iff_of_false nofun nofun

end Turns

/-! ### Behind the natural end -/

section Heralds

variable {report : Report} {op : Operation} {p : Playback} {c : Change}

/-- The natural end of a success heralds a celebration, and nothing else does. -/
structure Heralded (report : Report) (events : List Event) : Prop where
  /-- Every natural end is told with the result of the report. -/
  result : ∀ result, .finished result ∈ events → result = report.result
  /-- No celebration begins at the very first. -/
  first : events[0]? ≠ some .celebrationStarted
  /-- One begins exactly right behind each natural end of a success. -/
  herald : ∀ index, events[index + 1]? = some .celebrationStarted ↔
    events[index]? = some (.finished report.result) ∧ report.result.completed = true

/-- One heralded sequence of events may follow another. -/
theorem Heralded.append {earlier later : List Event} (h : Heralded report earlier)
    (h' : Heralded report later) : Heralded report (earlier ++ later) := by
  refine ⟨fun result hmem => ?_, ?_, fun index => ?_⟩
  · exact (List.mem_append.mp hmem).elim (h.result result) (h'.result result)
  · cases earlier with
    | nil => exact h'.first
    | cons event rest => exact h.first
  · rcases Nat.lt_trichotomy (index + 1) earlier.length with hlt | heq | hgt
    · rw [List.getElem?_append_left hlt, List.getElem?_append_left (by omega)]
      exact h.herald index
    · -- Neither is a celebration due at the end of the one nor does the other begin so.
      have hlast := h.herald index
      rw [heq, List.getElem?_eq_none (Nat.le_refl _)] at hlast
      rw [List.getElem?_append_right (Nat.le_of_eq heq.symm), heq, Nat.sub_self,
        List.getElem?_append_left (by omega)]
      exact iff_of_false h'.first fun hdue => nomatch hlast.mpr hdue
    · have hle : earlier.length ≤ index := Nat.le_of_lt_succ hgt
      rw [List.getElem?_append_right (Nat.le_of_lt hgt), List.getElem?_append_right hle,
        Nat.sub_add_comm hle]
      exact h'.herald (index - earlier.length)

/-- Events that tell neither of a natural end nor of the beginning of a celebration are
heralded. -/
theorem heralded_of_plain {events : List Event}
    (h : ∀ event ∈ events, event.isFinish = false ∧ event ≠ .celebrationStarted) :
    Heralded report events := by
  have hstarted : ∀ index : Nat, events[index]? ≠ some .celebrationStarted := fun index hget =>
    (h _ (List.mem_of_getElem? hget)).2 rfl
  refine ⟨fun result hmem => (nomatch (h _ hmem).1), hstarted 0, fun index => ?_⟩
  exact iff_of_false (hstarted _) fun hdue => nomatch (h _ (List.mem_of_getElem? hdue.1)).1

/-- The natural end and what comes right behind it are heralded. -/
theorem heralded_finish (hp : p.report = report) :
    Heralded report (.finished report.result :: p.celebrate.2) := by
  subst hp
  by_cases hcompleted : p.report.result.completed = true
  · rw [celebrate_of_completed hcompleted]
    refine ⟨by simp, nofun, fun index => ?_⟩
    cases index with
    | zero => exact iff_of_true rfl ⟨rfl, hcompleted⟩
    | succ index => cases index <;> simp
  · rw [celebrate_of_not_completed hcompleted]
    exact ⟨by simp, nofun, fun index => iff_of_false nofun fun hdue => hcompleted hdue.2⟩

/-- What an elementary change tells is heralded. -/
theorem Shift.heralded (h : Shift op p c) : Heralded p.report c.2 := by
  cases h with
  | finish playing all =>
    have hreport : p.ended.report = p.report := by rw [ended_eq]
    have hmove : Heralded p.report [.changed .playing .finished] :=
      heralded_of_plain (by simp [Event.isFinish])
    exact hmove.append (heralded_finish hreport)
  | rewind held off =>
    refine heralded_of_plain fun event hevent => ?_
    obtain hmove | hrewound := List.mem_append.mp hevent
    · unfold moveTo at hmove
      split at hmove
      · cases hmove
      · rw [List.mem_singleton.mp hmove]
        exact ⟨rfl, by simp⟩
    · rw [List.mem_singleton.mp hrewound]
      exact ⟨rfl, by simp⟩
  | _ => exact heralded_of_plain (by simp [Event.isFinish])

theorem heralded_performAll (report : Report) (config : PlaybackConfig) (taken : Bool)
    (ops : List Operation) :
    Heralded report (performAll ops (ofReport report config taken)).2 := by
  have hempty : Heralded report [] := heralded_of_plain nofun
  have hall := performAll_keep
    (P := fun events q => Faithful report q ∧ Heralded report events)
    (fun hc hq => ⟨hc.faithful hq.1, hq.2.append (hq.1.shown ▸ hc.heralded)⟩) []
    ⟨faithful_ofReport report config taken, hempty⟩ ops
  exact hall.2

end Heralds

/-! ### Their own time -/

/-- The time that an operation takes. -/
def Operation.span : Operation → Span
  | advance elapsed => elapsed
  | play | pause | resume | toggle | step | setDelay _ | cancel | reset | rewind => .zero

/-- The time that operations take together. -/
def timeTaken : List Operation → Span
  | [] => .zero
  | op :: rest => op.span.add (timeTaken rest)

/-- Whether an operation ends a celebration that began so long before it. -/
def Operation.ends (celebration past : Span) : Operation → Bool
  | advance elapsed => celebration.nanos ≤ past.nanos + elapsed.nanos
  | cancel | reset | rewind => true
  | play | pause | resume | toggle | step | setDelay _ => false

/-- Whether a celebration that began some time ago lasts through operations: none of
them ends it. -/
def lasts (celebration : Span) : Span → List Operation → Bool
  | _, [] => true
  | past, op :: rest => !op.ends celebration past && lasts celebration (past.add op.span) rest

/-- What is left of a celebration ends by the same operation as the whole of it. -/
theorem ends_sub (celebration past : Span) (op : Operation) :
    op.ends (celebration.sub past) .zero = op.ends celebration past := by
  cases op with
  | advance elapsed =>
    simp only [Operation.ends, Span.sub, Span.zero, Nat.zero_add, decide_eq_decide]
    exact Nat.sub_le_iff_le_add'
  | _ => rfl

section Times

variable {report : Report} {op : Operation} {p : Playback} {c : Change} {left : Span}

theorem performAll_singleton (op : Operation) (p : Playback) :
    performAll [op] p = p.perform op := by
  rw [performAll, Change.andThen_eq]
  simp only [performAll, List.append_nil]

/-- An operation keeps what holds of all playbacks. -/
theorem Reached.perform (h : Reached report p) (op : Operation) :
    Reached report (p.perform op).1 := by
  rw [← performAll_singleton]
  exact h.performAll [op]

/-- During a celebration these are refused. -/
theorem attempt_of_on (h : Reached report p) (on : p.celebrationLeft = some left)
    (hop : op = .play ∨ op = .pause ∨ op = .resume ∨ op = .toggle ∨ op = .step) :
    p.attempt op = none := by
  obtain ⟨finished, all, -⟩ := h.celebrates (by rw [isCelebrating, on]; rfl)
  rcases hop with rfl | rfl | rfl | rfl | rfl
  · exact if_neg (finished.trans_ne State.noConfusion)
  · exact if_neg (finished.trans_ne State.noConfusion)
  · exact if_neg (finished.trans_ne State.noConfusion)
  · rw [attempt, toggle, finished]
  · have hend : ¬p.cursor < p.length := by
      rw [length, h.shown, all]
      exact Nat.lt_irrefl _
    rw [attempt, step, decide_eq_false hend, Bool.and_false]
    rfl

/-- An operation during a celebration ends it, or takes its time off it. -/
theorem perform_of_on (h : Reached report p) (on : p.celebrationLeft = some left)
    (op : Operation) :
    celebrations (p.perform op).2 =
        (if op.ends left .zero = true then [.celebrationEnded] else []) ∧
      (p.perform op).1.celebrationLeft =
        if op.ends left .zero = true then none else some (left.sub op.span) := by
  obtain ⟨finished, all, -⟩ := h.celebrates (by rw [isCelebrating, on]; rfl)
  cases op with
  | play | pause | resume | toggle | step =>
    rw [perform, attempt_of_on h on (by simp)]
    exact ⟨rfl, on⟩
  | setDelay wanted =>
    obtain ⟨delay, hset⟩ := setDelay_eq p wanted
    rw [perform, attempt, Option.getD_some, hset]
    exact ⟨rfl, on⟩
  | advance elapsed =>
    rw [perform, attempt, Option.getD_some,
      advance_of_not_playing (finished.trans_ne State.noConfusion), advanceCelebration, on]
    by_cases hle : left.nanos ≤ elapsed.nanos
    · simp [Operation.ends, Span.zero, hle, endCelebration_of_on on, celebrations,
        Event.isCelebration]
    · simp [Operation.ends, Span.zero, hle, celebrations, Operation.span]
  | cancel =>
    rw [perform, attempt, Option.getD_some, cancel, finished, endCelebration_of_on on]
    exact ⟨rfl, rfl⟩
  | reset =>
    rw [perform, attempt, Option.getD_some, reset, cancel, finished, endCelebration_of_on on]
    exact ⟨rfl, rfl⟩
  | rewind =>
    rw [perform, attempt, rewind, if_neg (finished.trans_ne State.noConfusion),
      Option.getD_some, endCelebration_of_on on]
    simp only [Change.andThen_eq, celebrations_append, celebrations_moveTo, moveTo_eq]
    exact ⟨rfl, rfl⟩

/-- As long as no operation ends a celebration, it goes on, and the time that they take
is taken off it. -/
theorem performAll_of_lasts (h : Reached report p) (celebration past : Span)
    (on : p.celebrationLeft = some (celebration.sub past)) {ops : List Operation}
    (hlasts : lasts celebration past ops = true) :
    celebrations (performAll ops p).2 = [] ∧
      (performAll ops p).1.celebrationLeft =
        some (celebration.sub (past.add (timeTaken ops))) := by
  induction ops generalizing p past with
  | nil => exact ⟨rfl, on⟩
  | cons op rest ih =>
    rw [lasts, Bool.and_eq_true, Bool.not_eq_true'] at hlasts
    obtain ⟨htold, hafter⟩ := perform_of_on h on op
    rw [ends_sub, hlasts.1] at htold hafter
    have hnext : (p.perform op).1.celebrationLeft =
        some (celebration.sub (past.add op.span)) :=
      hafter.trans (congrArg some (congrArg Span.mk (Nat.sub_sub _ _ _)))
    obtain ⟨hnone, hleft⟩ := ih (h.perform op) _ hnext hlasts.2
    rw [performAll, Change.andThen_eq, celebrations_append, htold, hnone, hleft]
    exact ⟨rfl, congrArg (some ∘ celebration.sub) (congrArg Span.mk (Nat.add_assoc _ _ _))⟩

/-- Only time that goes by begins a celebration. -/
theorem Shift.advance_of_started (h : Shift op p c) (hstarted : .celebrationStarted ∈ c.2) :
    ∃ elapsed, op = .advance elapsed := by
  cases h with
  | finish playing all => exact ⟨_, rfl⟩
  | rewind held off =>
    have hmem : .celebrationStarted ∈ celebrations _ := List.mem_filter.mpr ⟨hstarted, rfl⟩
    rw [celebrations_append, celebrations_moveTo] at hmem
    cases hmem
  | _ => simp at hstarted

theorem Shifts.advance_of_started (h : Shifts op p c) (hstarted : .celebrationStarted ∈ c.2) :
    ∃ elapsed, op = .advance elapsed := by
  induction h with
  | none p => cases hstarted
  | more head tail ih =>
    obtain hfirst | hlater := List.mem_append.mp hstarted
    · exact head.advance_of_started hfirst
    · exact ih hlater

/-- Records tell of no celebration. -/
theorem not_started_applyMany (count : Nat) (p : Playback) :
    .celebrationStarted ∉ (applyMany count p).2 := by
  rw [events_applyMany]
  intro hmem
  cases isRecord_recital (List.mem_of_mem_drop (List.mem_of_mem_take hmem))

/-- Nor does the time of a celebration tell that one begins. -/
theorem not_started_advanceCelebration (p : Playback) (elapsed : Span) :
    .celebrationStarted ∉ (p.advanceCelebration elapsed).2 := by
  unfold advanceCelebration endCelebration
  split
  · exact List.not_mem_nil
  · split
    · split <;> simp
    · exact List.not_mem_nil

/-- A celebration that begins at the natural end has its whole length before it. -/
theorem celebrationLeft_finish (playing : p.state = .playing)
    (hstarted : .celebrationStarted ∈ p.finish.2) :
    p.finish.1.celebrationLeft = some p.config.celebrationSpan := by
  rw [finish_of_playing playing] at hstarted ⊢
  by_cases hcompleted : p.ended.report.result.completed = true
  · rw [celebrate_of_completed hcompleted, ended_eq]
  · rw [celebrate_of_not_completed hcompleted] at hstarted
    simp at hstarted

/-- A celebration that begins as time goes by has its whole length before it. -/
theorem celebrationLeft_advance (h : Reached report p) {elapsed : Span}
    (hstarted : .celebrationStarted ∈ (p.advance elapsed).2) :
    (p.advance elapsed).1.celebrationLeft = some p.config.celebrationSpan := by
  by_cases playing : p.state = .playing
  · rw [advance_eq_lapse playing (h.off_of_playing playing) h.positive, lapse] at hstarted ⊢
    split at hstarted
    · exact absurd hstarted (not_started_applyMany _ _)
    · next hgt =>
      obtain ⟨view, hview⟩ := applyMany_eq (Nat.le_of_eq h.cursor_add_remaining)
      rw [if_neg hgt]
      obtain hrecord | hfinish := List.mem_append.mp hstarted
      · exact absurd hrecord (not_started_applyMany _ _)
      · rw [hview] at hfinish
        rw [Change.andThen_eq, hview]
        exact celebrationLeft_finish (p := { p with cursor := _, view := view }) playing hfinish
  · rw [advance_of_not_playing playing] at hstarted
    exact absurd hstarted (not_started_advanceCelebration p elapsed)

end Times

/-- Celebrations are well bracketed and last exactly as long as they are to. Among all
events, beginnings and ends take turns, the first is a beginning, and each beginning
comes right behind a natural end of a success, as there is one behind each of these.
Only an advance begins a celebration. Whatever is done with the playback from there on,
nothing is told of celebrations and this one goes on, as long as no operation ends it;
and the operation that does so tells that it is over. It is the advance at which the
time that was taken since the beginning reaches the length of the celebration, or a
cancel, a reset or a rewind, which is never refused at that time. -/
theorem performAll_celebrates (report : Report) (config : PlaybackConfig) (taken : Bool)
    (ops : List Operation) :
    let played := performAll ops (ofReport report config taken)
    Bracketed report played.2 played.1 ∧ Heralded report played.2 ∧
      ∀ op, .celebrationStarted ∈ (played.1.perform op).2 →
        (∃ elapsed, op = .advance elapsed) ∧
        ∀ between : List Operation, lasts config.celebrationSpan .zero between = true →
          let held := performAll between (played.1.perform op).1
          celebrations held.2 = [] ∧ held.1.isCelebrating = true ∧
            ∀ last : Operation,
              celebrations (held.1.perform last).2 =
                  (if last.ends config.celebrationSpan (timeTaken between) = true then
                    [.celebrationEnded] else []) ∧
                (held.1.perform last).1.isCelebrating =
                  !last.ends config.celebrationSpan (timeTaken between) := by
  intro played
  have hreached : Reached report played.1 := reached_performAll report config taken ops
  have hconfig : played.1.config = config :=
    performAll_keep (P := fun _ q => q.config = config) (fun hc hq => hc.config_eq.trans hq) []
      rfl ops
  refine ⟨performAll_keep Shift.bracketed [] (bracketed_ofReport report config taken) ops,
    heralded_performAll report config taken ops, fun op hstarted => ?_⟩
  obtain ⟨elapsed, rfl⟩ := (shifts_perform played.1 op).advance_of_started hstarted
  have on : (played.1.perform (.advance elapsed)).1.celebrationLeft =
      some (config.celebrationSpan.sub .zero) := by
    rw [Span.sub_zero, ← hconfig]
    exact celebrationLeft_advance hreached hstarted
  have hbegun := hreached.perform (.advance elapsed)
  refine ⟨⟨elapsed, rfl⟩, fun between hlasts => ?_⟩
  intro held
  obtain ⟨hnone, hleft⟩ := performAll_of_lasts hbegun config.celebrationSpan .zero on hlasts
  rw [Span.zero_add] at hleft
  refine ⟨hnone, by rw [isCelebrating, hleft]; rfl, fun last => ?_⟩
  obtain ⟨htold, hafter⟩ := perform_of_on (hbegun.performAll between) hleft last
  rw [ends_sub] at htold hafter
  refine ⟨htold, ?_⟩
  rw [isCelebrating, hafter]
  cases last.ends config.celebrationSpan (timeTaken between) <;> rfl

/-- What is done while a stroll is celebrated, which takes 4999 ms. -/
def interlude : List Operation :=
  [.pause, .advance (.ofMillis 3000), .setDelay (.ofMillis 50), .step,
    .advance (.ofMillis 1999), .toggle]

/-- None of it ends the celebration, but one millisecond more does. -/
theorem performAll_celebrates_stroll :
    let played := performAll [.play, .advance (.ofMillis 600)] (ofReport stroll {} true)
    let begun := played.1.perform (.advance (.ofMillis 300))
    .celebrationStarted ∈ begun.2 ∧
      lasts ({} : PlaybackConfig).celebrationSpan .zero interlude = true ∧
      celebrations (performAll interlude begun.1).2 = [] ∧
      celebrations ((performAll interlude begun.1).1.perform (.advance (.ofMillis 1))).2 =
        [.celebrationEnded] := by
  intro played begun
  have hbegun : celebrations begun.2 = [.celebrationStarted] := by decide +kernel
  have hstarted : .celebrationStarted ∈ begun.2 :=
    List.mem_of_mem_filter (hbegun ▸ List.mem_singleton_self Event.celebrationStarted)
  have hlasts : lasts ({} : PlaybackConfig).celebrationSpan .zero interlude = true := by decide
  obtain ⟨-, hcelebrates⟩ :=
    (performAll_celebrates stroll {} true [.play, .advance (.ofMillis 600)]).2.2 _ hstarted
  obtain ⟨hnone, -, hlast⟩ := hcelebrates interlude hlasts
  exact ⟨hstarted, hlasts, hnone, (hlast (.advance (.ofMillis 1))).1.trans (if_pos (by decide))⟩

end Playback

end MazeRobot

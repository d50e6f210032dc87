import MazeRobot.Proofs.Rounds
import MazeRobot.Proofs.Submission
import MazeRobot.Simulator
import Mathlib.Data.List.Forall2

/-!
# The takers of results

Every run that a simulator is asked for has a taker. Whatever else is asked for,
and whether the run could be made or not, the taker gets the result of the report
on its own run once or not at all, and it gets nothing any more when something
else is shown: by then the playback is gone, or the worker who had it has left.
-/

namespace MazeRobot

namespace Session

section Stage

variable {start : Playback} {s : Session}

/-- A move that may not be possible begins a round or leaves the playback where
it is. -/
theorem Shows.tryMove {ops : List Playback.Operation} (h : Shows start ops s) (m : Move) :
    ∃ more, Shows start more (s.tryMove m) := by
  rw [Session.tryMove]
  cases hm : s.move m with
  | none => exact ⟨ops, h⟩
  | some s' => exact ⟨_, h.move hm⟩

/-- Sending a command leaves the playback where it is. -/
theorem Shows.send {ops : List Playback.Operation} (h : Shows start ops s) (command : Command) :
    ∃ more, Shows start more (s.send command) := by
  unfold Session.send
  split
  · obtain ⟨more, hraised⟩ := h.tryMove .raise
    exact hraised.tryMove _
  · exact h.tryMove _

/-- When the cancel is sent, the worker that is being closed looks at the flag at
once, or after it took a command, or after its timer went off. -/
theorem close_cases (s : Session) (waking : Waking) :
    let t := s.send .cancel
    (t.stage ≠ .waiting ∧ s.close waking = t.tryMove .check) ∨
      (t.stage = .waiting ∧
        ∃ elapsed, s.close waking = (t.tryMove (.take elapsed)).tryMove .check) ∨
      ∃ elapsed t', t.move (.timer elapsed) = some t' ∧ s.close waking = t'.tryMove .check := by
  unfold Session.close
  dsimp only
  generalize s.send .cancel = t
  cases hs : t.stage with
  | checking | stopped => exact .inl ⟨Stage.noConfusion, rfl⟩
  | waiting =>
    cases waking with
    | timer elapsed =>
      cases hm : t.move (.timer elapsed) with
      | none => exact .inr (.inl ⟨rfl, elapsed, by simp only [hm, Option.getD_none]⟩)
      | some t' => exact .inr (.inr ⟨elapsed, t', hm, by simp only [hm, Option.getD_some]⟩)
    | command elapsed => exact .inr (.inl ⟨rfl, elapsed, rfl⟩)

/-- A session that is being closed goes through one more round at most and stops
its playback. -/
theorem Shows.close {ops : List Playback.Operation} (h : Shows start ops s) (waking : Waking) :
    ∃ more, Shows start more (s.close waking) := by
  obtain ⟨sent, hsent⟩ := h.send .cancel
  obtain ⟨-, hclose⟩ | ⟨-, elapsed, hclose⟩ | ⟨elapsed, t', hm, hclose⟩ := s.close_cases waking
  · rw [hclose]
    exact hsent.tryMove .check
  · obtain ⟨taken, htaken⟩ := hsent.tryMove (.take elapsed)
    rw [hclose]
    exact htaken.tryMove .check
  · rw [hclose]
    exact (hsent.move hm).tryMove .check

/-- A cancel that was sent has raised the flag, the worker is where it was, and if
it is still there it has a command to take. -/
theorem send_cancel (s : Session) :
    (s.send .cancel).cancelled = true ∧ (s.send .cancel).stage = s.stage ∧
      (s.stage ≠ .stopped → (s.send .cancel).queue = s.queue ++ [.cancel]) := by
  have hraised : s.tryMove .raise = { s with cancelled := true } := rfl
  rw [send, if_pos rfl, hraised, tryMove, move]
  split
  · next gone => exact ⟨rfl, rfl, absurd gone⟩
  · exact ⟨rfl, rfl, fun _ => rfl⟩

/-- A worker whose flag is up leaves when it looks at it. -/
theorem stage_tryMove_check {s : Session} (up : s.cancelled = true) (awake : s.stage ≠ .waiting) :
    (s.tryMove .check).stage = .stopped := by
  rw [Session.tryMove, Session.move]
  cases hs : s.stage with
  | checking =>
    simp only [up, if_true]
    rfl
  | waiting => exact absurd hs awake
  | stopped => exact hs

/-- When a session has been closed, its worker has left. -/
theorem stage_close (s : Session) (waking : Waking) : (s.close waking).stage = .stopped := by
  obtain ⟨up, hstage, hqueue⟩ := s.send_cancel
  obtain ⟨awake, hclose⟩ | ⟨waiting, elapsed, hclose⟩ | ⟨elapsed, t', hm, hclose⟩ :=
    s.close_cases waking
  · rw [hclose]
    exact stage_tryMove_check up awake
  · have hwaits := hqueue (by rw [← hstage, waiting]; exact Stage.noConfusion)
    have htake : ((s.send .cancel).tryMove (.take elapsed)).cancelled = true ∧
        ((s.send .cancel).tryMove (.take elapsed)).stage = .checking := by
      rw [Session.tryMove, Session.move, waiting, hwaits]
      cases s.queue <;> exact ⟨up, rfl⟩
    rw [hclose]
    exact stage_tryMove_check htake.1 (by rw [htake.2]; exact Stage.noConfusion)
  · rw [Session.move] at hm
    rw [hclose]
    split at hm
    · obtain rfl := Option.some.inj hm
      exact stage_tryMove_check up Stage.noConfusion
    · cases hm

end Stage

end Session

namespace Simulator

/-- The report on the run that an operation asks for, if it asks for one; no report
if the run cannot be made. -/
def Operation.reports (engine : EngineConfig) : Operation → List (Option Report)
  | run puzzle code | runBeside puzzle code | runUnstaffed puzzle code =>
    [(Engine.execute engine puzzle.grid puzzle.goal code).toOption]
  | load _ | cancel | update _ | play | pause | resume | toggle | step | rewind | setDelay _
  | reset | work _ => []

/-- The reports on all runs that are asked for, in their order. -/
def reports (engine : EngineConfig) (ops : List (Session.Waking × Operation)) :
    List (Option Report) :=
  ops.flatMap fun (_, op) => op.reports engine

/-- Whether an operation replaces what is shown. -/
def Operation.replaces : Operation → Bool
  | run _ _ | runBeside _ _ | runUnstaffed _ _ | load _ | cancel => true
  | update _ | play | pause | resume | toggle | step | rewind | setDelay _ | reset | work _ => false

/-- What the taker of a run may have got: nothing, or the result of the report on
the run. -/
def Fits (report : Option Report) (got : List RunResult) : Prop :=
  got = [] ∨ ∃ r, report = some r ∧ got = [r.result]

/-- What a simulator shows, and the reports whose takers wait for it. -/
inductive Showing (s : Simulator) : List (Option Report) → Prop where
  /-- Nothing is shown. -/
  | nothing (playback : s.playback = none) (session : s.session = none) : Showing s []
  /-- A stored report is shown, and nobody takes its result. -/
  | stored {p : Playback} (playback : s.playback = some p) (session : s.session = none)
      (sink : p.sink = none) : Showing s []
  /-- The owner of the simulator drives the playback of a run. -/
  | driven {p : Playback} {report : Report} {events : List Playback.Event}
      (playback : s.playback = some p) (session : s.session = none)
      (handed : Playback.HandedIn report events p) : Showing s [some report]
  /-- A worker has the playback of a run. -/
  | worked {t : Session} {report : Report} {config : PlaybackConfig}
      {ops : List Playback.Operation} (playback : s.playback = none) (session : s.session = some t)
      (shows : Session.Shows (.ofReport report config true) ops t) : Showing s [some report]

/-- The books of a simulator on the runs that it was asked for: all takers but
those of what is shown have what they will ever have. -/
def Books (rs : List (Option Report)) (s : Simulator) : Prop :=
  ∃ settled waiting, rs = settled ++ waiting ∧ List.Forall₂ Fits settled s.former ∧
    Showing s waiting

theorem fits_handedIn {report : Report} {events : List Playback.Event} {p : Playback}
    (h : Playback.HandedIn report events p) : ∃ got, p.sink = some got ∧ Fits (some report) got := by
  refine ⟨_, h.sink, ?_⟩
  split
  · exact .inr ⟨report, rfl, rfl⟩
  · exact .inl rfl

/-- A session hands the result of its report in once or not at all. -/
theorem handedIn_of_shows {report : Report} {config : PlaybackConfig}
    {ops : List Playback.Operation} {t : Session}
    (h : Session.Shows (.ofReport report config true) ops t) :
    ∃ events, Playback.HandedIn report events t.playback := by
  refine ⟨(Playback.performAll (ops ++ t.stage.farewell) (.ofReport report config true)).2, ?_⟩
  rw [show t.playback = (Playback.performAll (ops ++ t.stage.farewell)
    (.ofReport report config true)).1 from congrArg Prod.fst h]
  exact Playback.performAll_keep Playback.Shift.handedIn []
    (Playback.handedIn_ofReport report config) _

/-- Nobody takes the result of a stored report, whatever is done with it. -/
theorem sink_perform {p : Playback} (h : p.sink = none) (op : Playback.Operation) :
    (p.perform op).1.sink = none := by
  refine Playback.perform_keep (P := fun _ q => q.sink = none) (fun hc hq => ?_) [] h op
  rw [hc.handsIn.2, hq]
  split <;> rfl

section Showing

variable {s : Simulator} {waiting : List (Option Report)}

/-- A playback and a session are never shown at the same time. -/
theorem Showing.single (h : Showing s waiting) : s.playback = none ∨ s.session = none := by
  cases h with
  | nothing playback session => exact .inl playback
  | stored playback session => exact .inr session
  | driven playback session => exact .inr session
  | worked playback session => exact .inl playback

/-- Takers that wait have got what fits. -/
theorem Showing.fits (h : Showing s waiting) : List.Forall₂ Fits waiting s.current := by
  cases h with
  | nothing playback session =>
    rw [current, playback, session]
    exact .nil
  | stored playback session sink =>
    rw [current, playback, session, Option.bind_some, sink]
    exact .nil
  | driven playback session handed =>
    obtain ⟨got, hsink, hfits⟩ := fits_handedIn handed
    rw [current, playback, session, Option.bind_some, hsink]
    exact .cons hfits .nil
  | worked playback session shows =>
    obtain ⟨events, handed⟩ := handedIn_of_shows shows
    obtain ⟨got, hsink, hfits⟩ := fits_handedIn handed
    rw [current, playback, session, Option.bind_some, hsink]
    exact .cons hfits .nil

/-- What was stopped has the same takers. -/
theorem Showing.stop (h : Showing s waiting) (waking : Session.Waking) :
    Showing { s with
      playback := s.playback.map fun p => (p.perform .cancel).1
      session := s.session.map (·.close waking) } waiting := by
  cases h with
  | nothing playback session =>
    exact .nothing (by rw [playback]; rfl) (by rw [session]; rfl)
  | @stored p playback session sink =>
    exact .stored (by rw [playback]; rfl) (by rw [session]; rfl) (sink_perform sink .cancel)
  | driven playback session handed =>
    exact .driven (by rw [playback]; rfl) (by rw [session]; rfl)
      (Playback.perform_keep Playback.Shift.handedIn _ handed .cancel)
  | worked playback session shows =>
    obtain ⟨more, hclose⟩ := shows.close waking
    exact .worked (by rw [playback]; rfl) (by rw [session]; rfl) hclose

/-- What an operation leaves of a playback has the same takers. -/
theorem Showing.operate (h : Showing s waiting) (op : Playback.Operation) :
    Showing (s.operate op).1 waiting := by
  unfold Simulator.operate
  split
  · exact h
  · next p hp =>
    split
    · exact h
    · next q events hattempt =>
      have hperform : p.perform op = (q, events) := by rw [Playback.perform, hattempt]; rfl
      cases h with
      | nothing playback session => cases hp.symm.trans playback
      | worked playback session shows => cases hp.symm.trans playback
      | stored playback session sink =>
        obtain rfl := Option.some.inj (hp.symm.trans playback)
        exact .stored rfl session (by rw [← sink_perform sink op, hperform])
      | driven playback session handed =>
        obtain rfl := Option.some.inj (hp.symm.trans playback)
        have hkept := Playback.perform_keep Playback.Shift.handedIn _ handed op
        rw [hperform] at hkept
        exact .driven rfl session hkept

/-- A move of the worker leaves the takers as they are. -/
theorem Showing.work (h : Showing s waiting) (m : Session.Move) : Showing (s.work m) waiting := by
  cases h with
  | nothing playback session => exact .nothing playback (by rw [Simulator.work, session]; rfl)
  | stored playback session sink =>
    exact .stored playback (by rw [Simulator.work, session]; rfl) sink
  | driven playback session handed =>
    exact .driven playback (by rw [Simulator.work, session]; rfl) handed
  | worked playback session shows =>
    obtain ⟨more, hmoved⟩ := shows.tryMove m
    exact .worked playback (by rw [Simulator.work, session]; rfl) hmoved

/-- The takers depend on nothing but on what is shown. -/
theorem Showing.congr (h : Showing s waiting) {s' : Simulator} (hplayback : s'.playback = s.playback)
    (hsession : s'.session = s.session) : Showing s' waiting := by
  cases h with
  | nothing playback session => exact .nothing (hplayback.trans playback) (hsession.trans session)
  | stored playback session sink =>
    exact .stored (hplayback.trans playback) (hsession.trans session) sink
  | driven playback session handed =>
    exact .driven (hplayback.trans playback) (hsession.trans session) handed
  | worked playback session shows =>
    exact .worked (hplayback.trans playback) (hsession.trans session) shows

end Showing

theorem former_operate (s : Simulator) (op : Playback.Operation) :
    (s.operate op).1.former = s.former := by
  unfold Simulator.operate
  split
  · rfl
  · split <;> rfl

theorem config_operate (s : Simulator) (op : Playback.Operation) :
    (s.operate op).1.config = s.config := by
  unfold Simulator.operate
  split
  · rfl
  · split <;> rfl

section Books

variable {rs : List (Option Report)} {s s' : Simulator}

/-- What leaves the takers as they are leaves the books as they are. -/
theorem Books.keep (h : Books rs s) (hformer : s'.former = s.former)
    (hshowing : ∀ {waiting}, Showing s waiting → Showing s' waiting) : Books (rs ++ []) s' := by
  obtain ⟨settled, waiting, hrs, hsettled, hwaiting⟩ := h
  exact ⟨settled, waiting, (List.append_nil rs).trans hrs, hformer ▸ hsettled,
    hshowing hwaiting⟩

theorem Books.operate (h : Books rs s) (op : Playback.Operation) :
    Books (rs ++ []) (s.operate op).1 :=
  h.keep (former_operate s op) (·.operate op)

/-- A cancel settles the books on all runs so far. -/
theorem Books.cancel (h : Books rs s) (waking : Session.Waking) :
    List.Forall₂ Fits rs (s.cancel waking).former := by
  obtain ⟨settled, waiting, rfl, hformer, hshowing⟩ := h
  exact List.rel_append hformer (hshowing.stop waking).fits

/-- The books on a run that has failed are settled at once. -/
theorem Books.failed (h : Books rs s) (waking : Session.Waking) (report : Option Report) :
    Books (rs ++ [report]) (s.cancel waking).failed :=
  ⟨rs ++ [report], [], (List.append_nil _).symm,
    List.rel_append (h.cancel waking) (.cons (.inl rfl) .nil), .nothing rfl rfl⟩

theorem Books.run (h : Books rs s) (waking : Session.Waking) (puzzle : Puzzle) (code : String) :
    Books (rs ++ [(s.execute puzzle code).toOption]) (s.run waking puzzle code).1 := by
  have hexecute : (s.cancel waking).execute puzzle code = s.execute puzzle code := rfl
  rw [Simulator.run, hexecute]
  cases s.execute puzzle code with
  | error defect => exact h.failed waking none
  | ok report =>
    exact ⟨rs, [some report], rfl, h.cancel waking, .driven rfl rfl
      (Playback.perform_keep Playback.Shift.handedIn [] (Playback.handedIn_ofReport report _) .play)⟩

theorem Books.runBeside (h : Books rs s) (waking : Session.Waking) (puzzle : Puzzle)
    (code : String) :
    Books (rs ++ [(s.execute puzzle code).toOption]) (s.runBeside waking puzzle code).1 := by
  have hexecute : (s.cancel waking).execute puzzle code = s.execute puzzle code := rfl
  rw [Simulator.runBeside, hexecute]
  cases s.execute puzzle code with
  | error defect => exact h.failed waking none
  | ok report =>
    exact ⟨rs, [some report], rfl, h.cancel waking, .worked rfl rfl (Session.shows_spawn _)⟩

/-- Every operation keeps the books. -/
theorem Books.perform (h : Books rs s) (waking : Session.Waking) (op : Operation) :
    Books (rs ++ op.reports s.config.engine) (s.perform waking op) := by
  cases op with
  | run puzzle code => exact h.run waking puzzle code
  | runBeside puzzle code => exact h.runBeside waking puzzle code
  | runUnstaffed puzzle code => exact h.failed waking _
  | load report =>
    exact ⟨rs, [], rfl, h.cancel waking, .stored rfl rfl rfl⟩
  | cancel => exact ⟨rs, [], rfl, h.cancel waking, .nothing rfl rfl⟩
  | work m => exact h.keep rfl (·.work m)
  | update elapsed =>
    exact h.keep (former_operate s _) fun hshowing =>
      (hshowing.operate (.advance elapsed)).congr rfl rfl
  | setDelay wanted =>
    have hconfig : Books rs { s with config := { s.config with playback :=
        { s.config.playback with delay := wanted.millisWord } } } := by
      obtain ⟨settled, waiting, hrs, hformer, hshowing⟩ := h
      exact ⟨settled, waiting, hrs, hformer, hshowing.congr rfl rfl⟩
    exact hconfig.operate (.setDelay wanted)
  | play => exact h.operate .play
  | pause => exact h.operate .pause
  | resume => exact h.operate .resume
  | toggle => exact h.operate .toggle
  | step => exact h.operate .step
  | rewind => exact h.operate .rewind
  | reset => exact h.operate .reset

end Books

/-- The engine is configured once and for all. -/
theorem engine_perform (s : Simulator) (waking : Session.Waking) (op : Operation) :
    (s.perform waking op).config.engine = s.config.engine := by
  have hoperate (s : Simulator) (op : Playback.Operation) :
      (s.operate op).1.config.engine = s.config.engine := by rw [config_operate]
  cases op with
  | run puzzle code =>
    rw [Simulator.perform, run]
    split <;> rfl
  | runBeside puzzle code =>
    rw [Simulator.perform, runBeside]
    split <;> rfl
  | runUnstaffed | load | cancel | work => rfl
  | update elapsed => exact hoperate s _
  | setDelay wanted => exact hoperate _ _
  | play | pause | resume | toggle | step | rewind | reset => exact hoperate s _

/-- Whatever is done, the books are kept on all runs that were asked for. -/
theorem Books.performAll {rs : List (Option Report)} {s : Simulator} (h : Books rs s)
    (ops : List (Session.Waking × Operation)) :
    Books (rs ++ reports s.config.engine ops) (performAll ops s) := by
  induction ops generalizing rs s with
  | nil =>
    rw [reports, List.flatMap_nil, List.append_nil]
    exact h
  | cons first rest ih =>
    have hrest := ih (h.perform first.1 first.2)
    rw [engine_perform, List.append_assoc] at hrest
    exact hrest

theorem books_ofConfig (config : Config) : Books [] (ofConfig config) :=
  ⟨[], [], rfl, .nil, .nothing rfl rfl⟩

/-- What takers of former runs got is never changed. -/
theorem former_perform (s : Simulator) (waking : Session.Waking) (op : Operation) :
    s.former <+: (s.perform waking op).former ∧
      (op.replaces = true → (s.cancel waking).former <+: (s.perform waking op).former) := by
  have hcancel : s.former <+: (s.cancel waking).former := List.prefix_append _ _
  have hfailed : (s.cancel waking).former <+: (s.cancel waking).failed.former :=
    List.prefix_append _ _
  have hreplaces (h : (s.cancel waking).former <+: (s.perform waking op).former) :
      s.former <+: (s.perform waking op).former ∧
        (op.replaces = true → (s.cancel waking).former <+: (s.perform waking op).former) :=
    ⟨hcancel.trans h, fun _ => h⟩
  have hkeeps (h : (s.perform waking op).former = s.former) (hop : op.replaces = false) :
      s.former <+: (s.perform waking op).former ∧
        (op.replaces = true → (s.cancel waking).former <+: (s.perform waking op).former) :=
    ⟨h ▸ List.prefix_refl _, fun hreplaces => by rw [hop] at hreplaces; cases hreplaces⟩
  cases op with
  | run puzzle code =>
    refine hreplaces ?_
    rw [Simulator.perform, run]
    split
    · exact hfailed
    · exact List.prefix_refl _
  | runBeside puzzle code =>
    refine hreplaces ?_
    rw [Simulator.perform, runBeside]
    split
    · exact hfailed
    · exact List.prefix_refl _
  | runUnstaffed => exact hreplaces hfailed
  | load | cancel => exact hreplaces (List.prefix_refl _)
  | work => exact hkeeps rfl rfl
  | update | setDelay | play | pause | resume | toggle | step | rewind | reset =>
    exact hkeeps (former_operate _ _) rfl

theorem former_performAll (s : Simulator) (ops : List (Session.Waking × Operation)) :
    s.former <+: (performAll ops s).former := by
  induction ops generalizing s with
  | nil => exact List.prefix_refl _
  | cons first rest ih => exact (former_perform s first.1 first.2).1.trans (ih _)

/-- Behind an operation that replaces what is shown, nothing reaches the takers of
the runs before it. -/
theorem take_submissions_performAll (s : Simulator) (waking : Session.Waking) {op : Operation}
    (hop : op.replaces = true) (later : List (Session.Waking × Operation)) :
    (performAll later (s.perform waking op)).submissions.take (s.cancel waking).former.length =
      (s.cancel waking).former := by
  have hformer := ((former_perform s waking op).2 hop).trans
    (former_performAll (s.perform waking op) later)
  exact (List.prefix_iff_eq_take.mp (hformer.trans (List.prefix_append _ _))).symm

/-- Nothing is shown. -/
structure Bare (s : Simulator) : Prop where
  /-- There is no playback. -/
  playback : s.playback = none
  /-- There is no session. -/
  session : s.session = none
  /-- That counts for a playback that was not started. -/
  state : s.state = .idle

theorem bare_failed (s : Simulator) (waking : Session.Waking) : Bare (s.cancel waking).failed :=
  ⟨rfl, rfl, rfl⟩

/-- Whatever is done with a simulator, it does not show a playback and a session
at the same time, and the takers have got nothing or the result of the report on
their own run. An operation that replaces what is shown, whether it succeeds or
not, stops the worker of the session that was shown, and from then on nothing
reaches the takers of the runs before. After a run that has failed nothing is
shown. -/
theorem performAll_takers (config : Config) (ops : List (Session.Waking × Operation)) :
    let s := performAll ops (ofConfig config)
    (s.playback = none ∨ s.session = none) ∧
      List.Forall₂ Fits (reports config.engine ops) s.submissions ∧
      (∀ waking op, op.replaces = true →
        (∀ t, s.session = some t → (t.close waking).stage = .stopped) ∧
          ∀ later, (performAll later (s.perform waking op)).submissions.take s.submissions.length =
            (s.perform waking op).submissions.take s.submissions.length) ∧
      ∀ waking puzzle code,
        (∀ defect, (s.run waking puzzle code).2 = .error defect →
          Bare (s.run waking puzzle code).1) ∧
        (∀ defect, (s.runBeside waking puzzle code).2 = .error defect →
          Bare (s.runBeside waking puzzle code).1) ∧
        Bare (s.runUnstaffed waking) := by
  intro s
  have hbooks : Books (reports config.engine ops) s := (books_ofConfig config).performAll ops
  have hfits : List.Forall₂ Fits (reports config.engine ops) s.submissions := by
    obtain ⟨settled, waiting, hrs, hformer, hshowing⟩ := hbooks
    rw [hrs]
    exact List.rel_append hformer hshowing.fits
  refine ⟨?_, hfits, fun waking op hop => ⟨fun t _ => t.stage_close waking, fun later => ?_⟩,
    fun waking puzzle code => ⟨fun defect hrun => ?_, fun defect hrun => ?_, bare_failed s waking⟩⟩
  · obtain ⟨settled, waiting, -, -, hshowing⟩ := hbooks
    exact hshowing.single
  · have hlength : s.submissions.length = (s.cancel waking).former.length :=
      hfits.length_eq.symm.trans (hbooks.cancel waking).length_eq
    rw [hlength, take_submissions_performAll s waking hop later]
    exact (take_submissions_performAll s waking hop []).symm
  · rw [run] at hrun ⊢
    split at hrun
    · exact bare_failed s waking
    · cases hrun
  · rw [runBeside] at hrun ⊢
    split at hrun
    · exact bare_failed s waking
    · cases hrun

end Simulator

end MazeRobot

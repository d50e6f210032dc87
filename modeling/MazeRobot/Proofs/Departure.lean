import MazeRobot.Proofs.Cancellation
import MazeRobot.Proofs.Deeds
import MazeRobot.Session.Gathering

/-!
# How a worker departs

A cancel is sent in two steps: the flag goes up, and the command is queued. The
worker may look at the flag, fall asleep, wake and work between any two steps of
its clients, of whom there may be many. Still no cancel is missed: when the call
has returned, a worker that sleeps has something to take from its queue. Once
the flag is up, the worker goes through one round at most, however many commands
wait, then it stops its playback, sends what is left of the events and leaves.
It leaves only for a flag or when it is alone, and after that nobody touches the
playback that it hands back.
-/

namespace MazeRobot.Playback

/-- Out of an end nothing leads but a rewind, and nothing is handed in there. -/
theorem Shift.of_over {op : Operation} {p : Playback} {c : Change} (h : Shift op p c)
    (hop : op ≠ .rewind) (hover : p.state = .cancelled ∨ p.state = .finished) :
    (c.1.state = .cancelled ∨ c.1.state = .finished) ∧ c.1.sink = p.sink := by
  cases h with
  | lead leads =>
    rcases hover with hs | hs
    · rw [hs] at leads
      cases leads with
      | cancel going => exact absurd rfl going.2
      | reset going => exact absurd rfl going.2
    · exact absurd hs leads.ne_finished.1
  | finish playing all =>
    rw [playing] at hover
    exact hover.elim State.noConfusion State.noConfusion
  | rewind held off => exact absurd rfl hop
  | _ => exact ⟨hover, rfl⟩

/-- Nothing is handed in after an end as long as nobody rewinds. -/
theorem sink_performAll_of_over {p : Playback}
    (hover : p.state = .cancelled ∨ p.state = .finished) {ops : List Operation}
    (hops : .rewind ∉ ops) : (performAll ops p).1.sink = p.sink := by
  refine (performAll_keep_of
    (P := fun _ q => (q.state = .cancelled ∨ q.state = .finished) ∧ q.sink = p.sink)
    (· ≠ .rewind) (fun hop hc hq => ?_) [] ⟨hover, rfl⟩ fun op hop => ?_).2
  · obtain ⟨hstate, hsink⟩ := hc.of_over hop hq.1
    exact ⟨hstate, hsink.trans hq.2⟩
  · exact ne_of_mem_of_not_mem hop hops

/-- A playback of a report is at an end when it was cancelled, and quiet. -/
theorem Faithful.cancel {report : Report} {p : Playback} (h : Faithful report p) :
    ((p.perform .cancel).1.state = .cancelled ∨ (p.perform .cancel).1.state = .finished) ∧
      (p.perform .cancel).1.isCelebrating = false := by
  obtain ⟨view, events, hquiet⟩ := p.endCelebration_eq
  rw [perform, attempt, Option.getD_some, Playback.cancel]
  cases hp : p.state with
  | finished =>
    simp only [hquiet]
    exact ⟨.inr hp, rfl⟩
  | cancelled =>
    simp only [hquiet]
    exact ⟨.inl hp, rfl⟩
  | idle | playing | paused =>
    have off : p.celebrationLeft = none :=
      h.celebrationLeft_of_state (hp.trans_ne State.noConfusion)
    simp only [moveTo_eq, isCelebrating, off]
    exact ⟨.inl trivial, rfl⟩

end MazeRobot.Playback

namespace MazeRobot.Session

/-- Whether a step is one of the worker. -/
def Act.isWork : Act → Bool
  | work _ => true
  | copy _ | call _ _ | settle _ | leave _ => false

namespace Gathering

/-- Everything that can happen in one step. -/
inductive Acted (g : Gathering) : Act → Gathering → Prop where
  /-- A client that is not gone is copied. -/
  | copy {number : Nat} {c : Client} (there : g.client? number = some c) (present : c ≠ .gone) :
      Acted g (.copy number) { g with clients := g.clients ++ [.ready] }
  /-- A client begins to send a command that is no cancel. -/
  | call {number : Nat} {command : Command} (ready : g.client? number = some .ready)
      (harmless : command ≠ .cancel) :
      Acted g (.call number command) (g.withClient number (.sending command))
  /-- A client begins to send a cancel, and the flag goes up. -/
  | signal {number : Nat} {w : Worker} (ready : g.client? number = some .ready)
      (raised : g.worker.step (.move .raise) = some w) :
      Acted g (.call number .cancel) ((g.withClient number (.sending .cancel)).withWorker w)
  /-- A command is queued and its call returns. -/
  | settle {number : Nat} {command : Command} {w : Worker}
      (sending : g.client? number = some (.sending command))
      (queued : g.worker.step (.move (.enqueue command)) = some w) :
      Acted g (.settle number)
        { (g.withClient number .ready).withWorker w with
          answers := g.answers ++ [⟨command, true⟩] }
  /-- A command comes too late and its call returns. -/
  | late {number : Nat} {command : Command}
      (sending : g.client? number = some (.sending command)) (away : g.worker.point = .stopped) :
      Acted g (.settle number)
        { g.withClient number .ready with answers := g.answers ++ [⟨command, false⟩] }
  /-- A client goes away and leaves others. -/
  | leave {number : Nat} (ready : g.client? number = some .ready) :
      Acted g (.leave number) (g.withClient number .gone)
  /-- The last client goes away. -/
  | release {number : Nat} {w : Worker} (ready : g.client? number = some .ready)
      (alone : (g.withClient number .gone).isAlone = true)
      (released : g.worker.step (.move .release) = some w) :
      Acted g (.leave number) ((g.withClient number .gone).withWorker w)
  /-- The worker makes a step. -/
  | work {one : Step} {w : Worker} (own : one.isOwn = true)
      (stepped : g.worker.step one = some w) : Acted g (.work one) (g.withWorker w)

theorem acted_of_act {g g' : Gathering} {a : Act} (h : g.act a = some g') : Acted g a g' := by
  cases a with
  | copy number =>
    rw [act] at h
    split at h
    · next there =>
      obtain rfl := Option.some.inj h
      exact .copy there Client.noConfusion
    · next there =>
      obtain rfl := Option.some.inj h
      exact .copy there Client.noConfusion
    · cases h
    · cases h
  | call number command =>
    rw [act] at h
    split at h
    · next ready =>
      rw [sent] at h
      split at h
      · next hcancel =>
        subst hcancel
        obtain ⟨w, raised, rfl⟩ := Option.map_eq_some_iff.mp h
        exact .signal ready raised
      · next harmless =>
        obtain rfl := Option.some.inj h
        exact .call ready harmless
    · cases h
  | settle number =>
    rw [act] at h
    split at h
    · next command sending =>
      obtain rfl := Option.some.inj h
      cases hqueued : g.worker.move (.enqueue command) with
      | some w =>
        have hreturned : g.returned number command =
            { (g.withClient number .ready).withWorker w with
              answers := g.answers ++ [⟨command, true⟩] } := by
          rw [returned]
          simp only [withClient, hqueued]
        rw [hreturned]
        exact .settle sending hqueued
      | none =>
        have hreturned : g.returned number command =
            { g.withClient number .ready with answers := g.answers ++ [⟨command, false⟩] } := by
          rw [returned]
          simp only [withClient, hqueued]
        have away : g.worker.point = .stopped := by
          rw [Worker.move] at hqueued
          split at hqueued
          · assumption
          · cases hqueued
        rw [hreturned]
        exact .late sending away
    · cases h
    · cases h
    · cases h
  | leave number =>
    rw [act] at h
    split at h
    · next ready =>
      rw [left] at h
      split at h
      · next alone =>
        obtain ⟨w, released, rfl⟩ := Option.map_eq_some_iff.mp h
        exact .release ready alone released
      · obtain rfl := Option.some.inj h
        exact .leave ready
    · cases h
  | work one =>
    rw [act] at h
    split at h
    · next own =>
      obtain ⟨w, stepped, rfl⟩ := Option.map_eq_some_iff.mp h
      exact .work own stepped
    · cases h

/-- What a step does to the playback. -/
def deeds (g : Gathering) : Act → List Playback.Operation
  | .work one => g.worker.deeds one
  | .copy _ | .call _ _ | .settle _ | .leave _ => []

/-- What steps do to the playback. -/
def deedsAll : List Act → Gathering → List Playback.Operation
  | [], _ => []
  | a :: rest, g => g.deeds a ++ (g.act a).elim [] (deedsAll rest)

section Steps

variable {g g' : Gathering} {a : Act}

/-- A step leaves the worker alone or is a step of it. -/
theorem Acted.worker (h : Acted g a g') :
    (g'.worker = g.worker ∧ a.isWork = false ∧ g.deeds a = []) ∨
      ∃ one, g.worker.step one = some g'.worker ∧ one.isOwn = a.isWork ∧
        g.worker.deeds one = g.deeds a := by
  cases h with
  | copy | call | late | leave => exact .inl ⟨rfl, rfl, rfl⟩
  | signal ready raised => exact .inr ⟨_, raised, rfl, rfl⟩
  | settle sending queued => exact .inr ⟨_, queued, rfl, rfl⟩
  | release ready alone released => exact .inr ⟨_, released, rfl, rfl⟩
  | @work one w own stepped => exact .inr ⟨one, stepped, own, rfl⟩

theorem Acted.shown_eq (h : Acted g a g') :
    g'.worker.shown = g.worker.shown.andThen (Playback.performAll (g.deeds a)) := by
  obtain ⟨hsame, -, hnone⟩ | ⟨one, hone, -, hdeeds⟩ := h.worker
  · rw [hsame, hnone]
    exact congrArg (_, ·) (List.append_nil _).symm
  · rw [← hdeeds]
    exact (Worker.stepped_of_step hone).shown_eq

theorem Acted.cancelled (h : Acted g a g') (up : g.worker.cancelled = true) :
    g'.worker.cancelled = true := by
  obtain ⟨hsame, -, -⟩ | ⟨one, hone, -, -⟩ := h.worker
  · rw [hsame]
    exact up
  · exact (Worker.stepped_of_step hone).cancelled up

theorem Acted.rest_eq (h : Acted g a g') (up : g.worker.cancelled = true)
    (awake : g.worker.point ≠ .waiting) :
    g.deeds a ++ g'.worker.point.rest = g.worker.point.rest ∧ g'.worker.point ≠ .waiting := by
  obtain ⟨hsame, -, hnone⟩ | ⟨one, hone, -, hdeeds⟩ := h.worker
  · rw [hsame, hnone]
    exact ⟨rfl, awake⟩
  · rw [← hdeeds]
    exact (Worker.stepped_of_step hone).rest_eq up awake

theorem Acted.deeds_of_asleep (h : Acted g a g') (asleep : g.worker.point = .waiting) :
    g.deeds a = [] := by
  obtain ⟨-, -, hnone⟩ | ⟨one, hone, -, hdeeds⟩ := h.worker
  · exact hnone
  · rw [← hdeeds]
    exact ((Worker.stepped_of_step hone).of_asleep asleep).1

theorem Acted.toGo_le (h : Acted g a g') (up : g.worker.cancelled = true) :
    g'.worker.toGo + (if a.isWork then 1 else 0) ≤ g.worker.toGo := by
  obtain ⟨hsame, hown, -⟩ | ⟨one, hone, hown, -⟩ := h.worker
  · rw [hsame, hown]
    exact Nat.le_refl _
  · rw [← hown]
    exact (Worker.stepped_of_step hone).toGo_le up

theorem Acted.of_stopped (h : Acted g a g') (away : g.worker.point = .stopped) :
    g'.worker.point = .stopped ∧ g'.worker.observed = g.worker.observed ∧
      g'.worker.sent = g.worker.sent := by
  obtain ⟨hsame, -, -⟩ | ⟨one, hone, -, -⟩ := h.worker
  · rw [hsame]
    exact ⟨away, rfl, rfl⟩
  · exact (Worker.stepped_of_step hone).of_stopped away

/-- A worker that is leaving has the stop of its playback before or behind
it. -/
theorem Acted.last (h : Acted g a g') {earlier : List Playback.Operation}
    (hlast : g.worker.point.stage = .stopped →
      ∃ before, earlier ++ g.worker.point.pending = before ++ [.cancel])
    (leaving : g'.worker.point.stage = .stopped) :
    ∃ before, earlier ++ g.deeds a ++ g'.worker.point.pending = before ++ [.cancel] := by
  obtain ⟨hsame, -, hnone⟩ | ⟨one, hone, -, hdeeds⟩ := h.worker
  · rw [hsame] at leaving ⊢
    rw [hnone, List.append_nil]
    exact hlast leaving
  · rw [← hdeeds, List.append_assoc]
    obtain ⟨hstage, hpending⟩ | ⟨-, before, hbefore⟩ :=
      (Worker.stepped_of_step hone).leaving leaving
    · rw [hpending]
      exact hlast hstage
    · exact ⟨earlier ++ before, by rw [hbefore, List.append_assoc]⟩

end Steps

section Runs

variable {g g' : Gathering} {acts : List Act}

theorem actAll_cons_iff {a : Act} {rest : List Act} :
    actAll (a :: rest) g = some g' ↔ ∃ middle, g.act a = some middle ∧
      actAll rest middle = some g' :=
  Option.bind_eq_some_iff

theorem deedsAll_cons {a : Act} {rest : List Act} {middle : Gathering}
    (h : g.act a = some middle) : deedsAll (a :: rest) g = g.deeds a ++ deedsAll rest middle := by
  rw [deedsAll, h]
  rfl

/-- What every step keeps, all steps keep. -/
theorem actAll_keep {P : Gathering → Prop} (h : actAll acts g = some g')
    (hstep : ∀ {a middle later}, middle.act a = some later → P middle → P later)
    (hstart : P g) : P g' := by
  induction acts generalizing g with
  | nil =>
    obtain rfl := Option.some.inj h
    exact hstart
  | cons a rest ih =>
    obtain ⟨middle, hfirst, hrest⟩ := actAll_cons_iff.mp h
    exact ih hrest (hstep hfirst hstart)

/-- What is shown follows the deeds. -/
theorem shown_actAll (h : actAll acts g = some g') :
    g'.worker.shown = g.worker.shown.andThen (Playback.performAll (deedsAll acts g)) := by
  induction acts generalizing g with
  | nil =>
    obtain rfl := Option.some.inj h
    exact congrArg (_, ·) (List.append_nil _).symm
  | cons a rest ih =>
    obtain ⟨middle, hfirst, hrest⟩ := actAll_cons_iff.mp h
    rw [ih hrest, (acted_of_act hfirst).shown_eq, deedsAll_cons hfirst]
    simp only [Playback.Change.andThen_eq, Playback.performAll_append, List.append_assoc]

/-- The steps of a worker whose flag is up are numbered. -/
theorem toGo_actAll_le (h : actAll acts g = some g') (up : g.worker.cancelled = true) :
    g'.worker.toGo + acts.countP Act.isWork ≤ g.worker.toGo := by
  induction acts generalizing g with
  | nil =>
    obtain rfl := Option.some.inj h
    exact Nat.le_refl _
  | cons a rest ih =>
    obtain ⟨middle, hfirst, hrest⟩ := actAll_cons_iff.mp h
    have hlater := ih hrest ((acted_of_act hfirst).cancelled up)
    have hnow := (acted_of_act hfirst).toGo_le up
    rw [List.countP_cons]
    omega

/-- A worker that is not asleep does what is left of its round and stops the
playback, if its flag is up. -/
theorem rest_actAll (h : actAll acts g = some g') (up : g.worker.cancelled = true)
    (awake : g.worker.point ≠ .waiting) :
    deedsAll acts g ++ g'.worker.point.rest = g.worker.point.rest := by
  induction acts generalizing g with
  | nil =>
    obtain rfl := Option.some.inj h
    rfl
  | cons a rest ih =>
    obtain ⟨middle, hfirst, hrest⟩ := actAll_cons_iff.mp h
    obtain ⟨hnow, hawake⟩ := (acted_of_act hfirst).rest_eq up awake
    rw [deedsAll_cons hfirst, List.append_assoc,
      ih hrest ((acted_of_act hfirst).cancelled up) hawake, hnow]

/-- A worker whose flag is up lets time go by and obeys a command at most once
before it stops the playback. -/
theorem deedsAll_sublist (h : actAll acts g = some g') (up : g.worker.cancelled = true) :
    ∃ (elapsed : Span) (command : Command),
      (deedsAll acts g).Sublist [.advance elapsed, command.operation, .cancel] := by
  induction acts generalizing g with
  | nil => exact ⟨.zero, .play, List.nil_sublist _⟩
  | cons a rest ih =>
    obtain ⟨middle, hfirst, hrest⟩ := actAll_cons_iff.mp h
    have hacted := acted_of_act hfirst
    by_cases asleep : g.worker.point = .waiting
    · rw [deedsAll_cons hfirst, hacted.deeds_of_asleep asleep]
      exact ih hrest (hacted.cancelled up)
    · obtain ⟨elapsed, command, hfew⟩ := Point.rest_sublist asleep
      rw [← rest_actAll h up asleep] at hfew
      exact ⟨elapsed, command, (List.sublist_append_left _ _).trans hfew⟩

/-- Nobody touches the playback of a worker that has left. -/
theorem actAll_of_stopped (h : actAll acts g = some g') (away : g.worker.point = .stopped) :
    g'.worker.point = .stopped ∧ g'.worker.observed = g.worker.observed ∧
      g'.worker.sent = g.worker.sent := by
  refine actAll_keep (P := fun later => later.worker.point = .stopped ∧
    later.worker.observed = g.worker.observed ∧ later.worker.sent = g.worker.sent)
    h (fun {a middle later} hact hbefore => ?_) ⟨away, rfl, rfl⟩
  obtain ⟨hpoint, hobserved, hsent⟩ := (acted_of_act hact).of_stopped hbefore.1
  exact ⟨hpoint, hobserved.trans hbefore.2.1, hsent.trans hbefore.2.2⟩

/-- When a worker is leaving, the last of all its deeds is to stop the
playback. -/
theorem last_actAll (h : actAll acts g = some g') {earlier : List Playback.Operation}
    (hlast : g.worker.point.stage = .stopped →
      ∃ before, earlier ++ g.worker.point.pending = before ++ [.cancel])
    (leaving : g'.worker.point.stage = .stopped) :
    ∃ before, earlier ++ deedsAll acts g ++ g'.worker.point.pending = before ++ [.cancel] := by
  induction acts generalizing g earlier with
  | nil =>
    obtain rfl := Option.some.inj h
    rw [deedsAll, List.append_nil]
    exact hlast leaving
  | cons a rest ih =>
    obtain ⟨middle, hfirst, hrest⟩ := actAll_cons_iff.mp h
    rw [deedsAll_cons hfirst, ← List.append_assoc]
    exact ih hrest ((acted_of_act hfirst).last hlast)

end Runs

/-- Whether a call with a command has returned. -/
def HasReturned (g : Gathering) (command : Command) : Prop :=
  ∃ queued, ⟨command, queued⟩ ∈ g.answers

/-- What holds of a worker among its clients at all times. -/
structure Sound (g : Gathering) : Prop where
  /-- Events are kept only in the middle of a round. -/
  tidy : g.worker.Tidy
  /-- The flag is up before a cancel is queued, and ever after. -/
  signalled : .sending .cancel ∈ g.clients ∨ g.HasReturned .cancel → g.worker.cancelled = true
  /-- A worker that fell asleep before a cancel finds it in the queue. -/
  called : g.HasReturned .cancel → g.worker.point = .waiting → .cancel ∈ g.worker.queue
  /-- A worker leaves for a flag or when it is alone. -/
  reason : g.worker.point.stage = .stopped →
    g.worker.cancelled = true ∨ g.worker.released = true
  /-- A worker that is told to be alone is alone. -/
  alone : g.worker.released = true → g.isAlone = true

namespace Sound

variable {g g' : Gathering} {w : Worker}

theorem spawn (o : Playback.Observed) : Sound (Gathering.spawn o) where
  tidy hnone := absurd rfl (hnone (.obey .play))
  signalled hcancel := by
    rcases hcancel with hsending | ⟨queued, hmem⟩
    · cases List.mem_singleton.mp hsending
    · cases hmem
  called hreturned := by
    obtain ⟨queued, hmem⟩ := hreturned
    cases hmem
  reason hleaving := by cases hleaving
  alone hreleased := by cases hreleased

/-- A client that is not gone keeps the worker company. -/
theorem not_released (h : Sound g) {number : Nat} {c : Client}
    (there : g.client? number = some c) (present : c ≠ .gone) : g.worker.released = false := by
  refine Bool.eq_false_iff.mpr fun hreleased => present ?_
  have hgone := List.all_eq_true.mp (h.alone hreleased) c (List.mem_of_getElem? there)
  exact of_decide_eq_true hgone

/-- A cancel of which the calls tell is a cancel of which they told before, or
it is just being signalled. -/
theorem signalled_act (h : Sound g) {a : Act} (hacted : Acted g a g')
    (hcancel : .sending .cancel ∈ g'.clients ∨ g'.HasReturned .cancel) :
    g'.worker.cancelled = true := by
  have hreturned {command : Command} {sent : Bool}
      (hsent : command = .cancel → .sending .cancel ∈ g.clients)
      (hmem : ∃ queued, ⟨.cancel, queued⟩ ∈ g.answers ++ [⟨command, sent⟩]) :
      .sending .cancel ∈ g.clients ∨ g.HasReturned .cancel := by
    obtain ⟨queued, hmem⟩ := hmem
    rcases List.mem_append.mp hmem with hold | hnew
    · exact .inr ⟨queued, hold⟩
    · exact .inl (hsent (Answer.mk.inj (List.mem_singleton.mp hnew)).1.symm)
  have hset {number : Nat} {c : Client} (hc : c ≠ .sending .cancel)
      (hmem : .sending .cancel ∈ g.clients.set number c) : .sending .cancel ∈ g.clients :=
    (List.mem_or_eq_of_mem_set hmem).resolve_right hc.symm
  cases hacted with
  | signal ready raised =>
    obtain rfl := Option.some.inj raised
    rfl
  | copy =>
    refine h.signalled (hcancel.imp_left fun hmem => ?_)
    exact (List.mem_append.mp hmem).resolve_right fun hnew => by
      cases List.mem_singleton.mp hnew
  | call ready harmless =>
    exact h.signalled (hcancel.imp_left (hset fun heq => harmless (Client.sending.inj heq)))
  | leave => exact h.signalled (hcancel.imp_left (hset Client.noConfusion))
  | release ready alone released =>
    exact (Worker.stepped_of_step released).cancelled
      (h.signalled (hcancel.imp_left (hset Client.noConfusion)))
  | work own stepped => exact (Worker.stepped_of_step stepped).cancelled (h.signalled hcancel)
  | settle sending queued =>
    refine (Worker.stepped_of_step queued).cancelled (h.signalled ?_)
    refine hcancel.elim (fun hmem => .inl (hset Client.noConfusion hmem)) (hreturned fun hsent => ?_)
    exact List.mem_of_getElem? (hsent ▸ sending)
  | late sending away =>
    refine h.signalled ?_
    refine hcancel.elim (fun hmem => .inl (hset Client.noConfusion hmem)) (hreturned fun hsent => ?_)
    exact List.mem_of_getElem? (hsent ▸ sending)

theorem called_act (h : Sound g) {a : Act} (hacted : Acted g a g')
    (hreturned : g'.HasReturned .cancel) (asleep : g'.worker.point = .waiting) :
    .cancel ∈ g'.worker.queue := by
  cases hacted with
  | copy | call | leave => exact h.called hreturned asleep
  | late sending away => cases away.symm.trans asleep
  | signal ready raised =>
    obtain rfl := Option.some.inj raised
    exact h.called hreturned asleep
  | release ready alone released =>
    obtain rfl := Option.some.inj released
    exact h.called hreturned asleep
  | work own stepped =>
    exact (Worker.stepped_of_step stepped).called (h.signalled (.inr hreturned))
      (h.called hreturned) asleep
  | settle sending queued =>
    obtain ⟨sent, hmem⟩ := hreturned
    rcases List.mem_append.mp hmem with hold | hnew
    · have hbefore : g.HasReturned .cancel := ⟨sent, hold⟩
      exact (Worker.stepped_of_step queued).called (h.signalled (.inr hbefore))
        (h.called hbefore) asleep
    · have hcommand := (Answer.mk.inj (List.mem_singleton.mp hnew)).1
      have hqueue := (Worker.move_frame (m := .enqueue _) queued).2.1
      rw [← hcommand] at hqueue
      exact hqueue ▸ List.mem_append_right _ (List.mem_singleton_self _)

theorem alone_act (h : Sound g) {a : Act} (hacted : Acted g a g')
    (hreleased : g'.worker.released = true) : g'.isAlone = true := by
  have hcompany {number : Nat} {c : Client} (there : g.client? number = some c)
      (present : c ≠ .gone) {released : Bool} (hsame : released = g.worker.released)
      (hreleased : released = true) : g'.isAlone = true := by
    rw [hsame, h.not_released there present] at hreleased
    cases hreleased
  cases hacted with
  | copy there present => exact hcompany there present rfl hreleased
  | call ready | leave ready => exact hcompany ready Client.noConfusion rfl hreleased
  | late sending => exact hcompany sending Client.noConfusion rfl hreleased
  | signal ready raised =>
    exact hcompany ready Client.noConfusion
      ((Worker.stepped_of_step raised).released_eq (by decide)) hreleased
  | settle sending queued =>
    exact hcompany sending Client.noConfusion
      ((Worker.stepped_of_step queued).released_eq (by simp)) hreleased
  | release ready alone => exact alone
  | @work one w own stepped =>
    have hone : one ≠ .move .release := fun hone => by rw [hone] at own; cases own
    exact h.alone (((Worker.stepped_of_step stepped).released_eq hone).symm.trans hreleased)

theorem act (h : Sound g) {a : Act} (hact : g.act a = some g') : Sound g' := by
  have hacted := acted_of_act hact
  refine ⟨?_, h.signalled_act hacted, h.called_act hacted, fun hleaving => ?_,
    h.alone_act hacted⟩
  · obtain ⟨hsame, -⟩ | ⟨one, hone, -⟩ := hacted.worker
    · rw [hsame]
      exact h.tidy
    · exact h.tidy.step hone
  · obtain ⟨hsame, -⟩ | ⟨one, hone, -⟩ := hacted.worker
    · rw [hsame] at hleaving ⊢
      exact h.reason hleaving
    · have hstepped := Worker.stepped_of_step hone
      have hreason : g.worker.cancelled = true ∨ g.worker.released = true :=
        (hstepped.leaving hleaving).elim (fun hbefore => h.reason hbefore.1) And.left
      exact hreason.imp hstepped.cancelled hstepped.released

theorem actAll (h : Sound g) {acts : List Act} (hacts : actAll acts g = some g') : Sound g' :=
  actAll_keep hacts (fun hact hbefore => hbefore.act hact) h

end Sound

/-- How a worker has left that was given a playback, after some steps. -/
structure Departed (o : Playback.Observed) (acts : List Act) (g : Gathering) : Prop where
  /-- The flag is up, or all clients are gone. -/
  reason : g.worker.cancelled = true ∨ g.isAlone = true
  /-- The last that the worker did was to stop the playback. -/
  last : ∃ before, deedsAll acts (spawn o) = before ++ [.cancel]
  /-- The playback is what the worker made of it. -/
  playback : g.worker.observed.playback =
    (Playback.performAll (deedsAll acts (spawn o)) o.playback).1
  /-- All events were sent, those of the time before included. -/
  sent : g.worker.sent.toList =
    o.kept ++ (Playback.performAll (deedsAll acts (spawn o)) o.playback).2
  /-- No event is left. -/
  kept : g.worker.observed.kept = []
  /-- The playback is at an end. -/
  ended : g.worker.observed.playback.state = .cancelled ∨
    g.worker.observed.playback.state = .finished
  /-- Nothing is celebrated. -/
  quiet : g.worker.observed.playback.isCelebrating = false
  /-- Nobody touches the playback any more, whatever the clients do. -/
  untouched : ∀ later g', actAll later g = some g' →
    g'.worker.point = .stopped ∧ g'.worker.observed = g.worker.observed ∧
      g'.worker.sent = g.worker.sent
  /-- Whoever gets it back hands nothing in with it but after a rewind. -/
  sink : ∀ ops : List Playback.Operation, .rewind ∉ ops →
    (Playback.performAll ops g.worker.observed.playback).1.sink = g.worker.observed.playback.sink

/-- How a worker goes on whose flag is up, with at most so many steps. -/
structure WindsUp (bound : Nat) (later : List Act) (g g' : Gathering) : Prop where
  /-- It lets time go by and obeys a command at most once, before it stops the
  playback. -/
  few : ∃ (elapsed : Span) (command : Command),
    (deedsAll later g).Sublist [.advance elapsed, command.operation, .cancel]
  /-- It makes no more steps than these. -/
  steps : later.countP Act.isWork ≤ bound
  /-- When a cancel has returned, it has a step to make until it has left. -/
  goes : g'.HasReturned .cancel → g'.worker.point ≠ .stopped →
    ∃ one, (g'.act (.work one)).isSome = true

section Spawn

variable {o : Playback.Observed} {acts : List Act} {g : Gathering}

/-- A worker that has left, and what came of its playback. -/
theorem departed_of_stopped {report : Report} (hfaithful : Playback.Faithful report o.playback)
    (hacts : actAll acts (spawn o) = some g) (stopped : g.worker.point = .stopped) :
    Departed o acts g := by
  have hsound : Sound g := (Sound.spawn o).actAll hacts
  have hstage : g.worker.point.stage = .stopped := by rw [stopped]; rfl
  have hkept : g.worker.observed.kept = [] := hsound.tidy.kept_of_rest .stopped stopped
  have hshown := shown_actAll hacts
  have hstart : (spawn o).worker.shown = (o.playback, o.kept) := rfl
  have hend : g.worker.shown = (g.worker.observed.playback, g.worker.sent.toList) := by
    rw [Worker.shown, stopped, hkept]
    exact congrArg (_, ·) (List.append_nil _)
  rw [hstart, hend, Playback.Change.andThen_eq] at hshown
  have hplayback : g.worker.observed.playback =
      (Playback.performAll (deedsAll acts (spawn o)) o.playback).1 := congrArg Prod.fst hshown
  have hstay : (spawn o).worker.point.stage = .stopped →
      ∃ before, [] ++ (spawn o).worker.point.pending = before ++ [.cancel] :=
    fun hleaving => by cases hleaving
  obtain ⟨before, hlast⟩ := last_actAll hacts hstay hstage
  rw [List.nil_append, stopped] at hlast
  have hdeeds : deedsAll acts (spawn o) = before ++ [.cancel] :=
    (List.append_nil _).symm.trans hlast
  obtain ⟨hover, hquiet⟩ : (g.worker.observed.playback.state = .cancelled ∨
      g.worker.observed.playback.state = .finished) ∧
      g.worker.observed.playback.isCelebrating = false := by
    have hcancel := (Playback.faithful_performAll hfaithful before).cancel
    rw [hplayback, hdeeds, Playback.performAll_append]
    exact hcancel
  exact ⟨(hsound.reason hstage).imp_right hsound.alone, ⟨before, hdeeds⟩, hplayback,
    congrArg Prod.snd hshown, hkept, hover, hquiet,
    fun later g' hlater => actAll_of_stopped hlater stopped,
    fun ops hops => Playback.sink_performAll_of_over hover hops⟩

theorem windsUp_of_cancelled (hacts : actAll acts (spawn o) = some g)
    (up : g.worker.cancelled = true) {later : List Act} {g' : Gathering}
    (hlater : actAll later g = some g') : WindsUp g.worker.toGo later g g' where
  few := deedsAll_sublist hlater up
  steps := by
    have hsteps := toGo_actAll_le hlater up
    omega
  goes hreturned here := by
    have hsound : Sound g' := ((Sound.spawn o).actAll hacts).actAll hlater
    obtain ⟨one, own, hone⟩ := Worker.exists_step here fun asleep =>
      List.ne_nil_of_mem (hsound.called hreturned asleep)
    obtain ⟨w, hstep⟩ := Option.isSome_iff_exists.mp hone
    exact ⟨one, by rw [act, if_pos own, hstep]; rfl⟩

end Spawn

/-- A worker is given a playback that was used in any way, and it and its
clients make any steps. When a cancel has returned, the worker does not sleep
without a command to take. If it has left, it has departed in good order. From
when its flag is up, it winds up, with a bound on all its steps to come. -/
theorem actAll_departs (report : Report) (config : PlaybackConfig) (taken : Bool)
    (uses : List Playback.Use) {acts : List Act} {g : Gathering}
    (hacts : actAll acts
      (spawn (Playback.Observed.useAll uses (.ofReport report config taken)).1) = some g) :
    (g.HasReturned .cancel → g.worker.point = .waiting → g.worker.queue ≠ []) ∧
      (g.worker.point = .stopped →
        Departed (Playback.Observed.useAll uses (.ofReport report config taken)).1 acts g) ∧
      (g.worker.cancelled = true →
        ∃ bound, ∀ later g', actAll later g = some g' → WindsUp bound later g g') := by
  have hsound : Sound g := (Sound.spawn _).actAll hacts
  have hfaithful : Playback.Faithful report
      (Playback.Observed.useAll uses (.ofReport report config taken)).1.playback := by
    rw [Playback.Observed.playback_useAll]
    exact Playback.faithful_performAll (Playback.faithful_ofReport report config taken) _
  refine ⟨fun hreturned asleep => ?_, departed_of_stopped hfaithful hacts, fun up => ?_⟩
  · exact List.ne_nil_of_mem (hsound.called hreturned asleep)
  · exact ⟨g.worker.toGo, fun later g' => windsUp_of_cancelled hacts up⟩

/-- A stroll that was not started. -/
def unstarted : Playback.Observed :=
  (Playback.Observed.useAll [] (.ofReport Playback.stroll {} true)).1

/-- The worker falls asleep. Then one client raises the flag, and another one
queues a command before the cancel is queued behind it. -/
def assembling : List Act :=
  .copy 0 :: List.replicate 4 (.work .proceed) ++
    [.work (.move .check), .call 1 .cancel, .call 0 .pause, .settle 0, .settle 1]

/-- The worker takes the first of two commands and goes through its round. A
client goes away, and the worker leaves. -/
def dispersing : List Act :=
  .work (.move (.take (.ofMillis 100))) :: List.replicate 2 (.work .proceed) ++ .leave 1 ::
    List.replicate 2 (.work .proceed) ++ .work (.move .check) ::
    List.replicate 3 (.work .proceed)

/-- A worker that is asleep when it is cancelled has two commands to take, and
it departs behind the first of them. -/
theorem actAll_departs_crowd :
    ∃ g g', actAll assembling (spawn unstarted) = some g ∧ g.HasReturned .cancel ∧
      g.worker.point = .waiting ∧ g.worker.queue ≠ [] ∧
      actAll (assembling ++ dispersing) (spawn unstarted) = some g' ∧
      g'.worker.point = .stopped ∧ g'.worker.queue = [.cancel] ∧
      Departed unstarted (assembling ++ dispersing) g' := by
  have hassembled : (actAll assembling (spawn unstarted)).any
      (fun g => ⟨.cancel, true⟩ ∈ g.answers ∧ g.worker.point = .waiting) := by decide +kernel
  have hdispersed : (actAll (assembling ++ dispersing) (spawn unstarted)).any
      (fun g => g.worker.point = .stopped ∧ g.worker.queue = [.cancel]) := by decide +kernel
  obtain ⟨g, hacts, hg⟩ := (Option.any_eq_true _ _).mp hassembled
  obtain ⟨hanswer, asleep⟩ := of_decide_eq_true hg
  obtain ⟨g', hacts', hg'⟩ := (Option.any_eq_true _ _).mp hdispersed
  obtain ⟨stopped, hqueue⟩ := of_decide_eq_true hg'
  have hcalled := (actAll_departs Playback.stroll {} true [] hacts).1 ⟨true, hanswer⟩ asleep
  have hdeparted := (actAll_departs Playback.stroll {} true [] hacts').2.1 stopped
  exact ⟨g, g', hacts, ⟨true, hanswer⟩, asleep, hcalled, hacts', stopped, hqueue, hdeparted⟩

end Gathering

end MazeRobot.Session

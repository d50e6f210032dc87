import MazeRobot.Autosave.Overrun
import Mathlib.Data.List.Basic

/-!
# What becomes of an edit

An edit opens a quiet window, and the script is saved once the window has gone by. A
save that is refused closes the window, and only another edit opens it again: until
then the script stays unsaved however much time goes by, unless someone asks for a
save. So an edit is saved in time exactly if no save was refused since.
-/

namespace MazeRobot

namespace Store

variable {σ : Type}

theorem inMemory_honest : inMemory.Honest := by
  intro shelf puzzle team code saved hsave
  cases hsave
  rfl

end Store

namespace Autosave

variable {σ : Type} {a : Autosave} {state : σ} {store : Store σ}

/-! ## Flushes and ticks, case by case -/

theorem isDirty_iff : a.isDirty = true ↔ a.saved ≠ some a.buffer :=
  decide_eq_true_iff

/-- What a flush does for a team. -/
theorem flush_eq {team : String} (hteam : a.team = some team) :
    a.flush store state =
      if a.isDirty then
        match store.save state a.puzzle team a.buffer with
        | (state, .error fault) => ⟨{ a with quiet := none }, state, .error fault⟩
        | (state, .ok saved) =>
          ⟨{ a with quiet := none, revision := saved.revision, saved := some saved.code },
            state, .ok true⟩
      else ⟨{ a with quiet := none }, state, .ok false⟩ := by
  cases a
  cases hteam
  rfl

theorem flush_of_accepted {team : String} {state' : σ} {saved : SavedCode}
    (hteam : a.team = some team) (hdirty : a.isDirty = true)
    (hsave : store.save state a.puzzle team a.buffer = (state', .ok saved)) :
    a.flush store state =
      ⟨{ a with quiet := none, revision := saved.revision, saved := some saved.code },
        state', .ok true⟩ := by
  rw [flush_eq hteam, if_pos hdirty, hsave]

theorem tick_of_none {elapsed : Span} (hquiet : a.quiet = none) :
    a.tick store elapsed state = ⟨a, state, .ok false⟩ := by
  simp only [tick, hquiet]

theorem tick_of_lt {quiet elapsed : Span} (hquiet : a.quiet = some quiet)
    (hlt : quiet.nanos + elapsed.nanos < a.debounce.nanos) :
    a.tick store elapsed state =
      ⟨{ a with quiet := some (quiet.add elapsed) }, state, .ok false⟩ := by
  simp only [tick, hquiet]
  exact if_pos hlt

theorem tick_of_le {quiet elapsed : Span} (hquiet : a.quiet = some quiet)
    (hle : a.debounce.nanos ≤ quiet.nanos + elapsed.nanos) :
    a.tick store elapsed state = a.flush store state := by
  simp only [tick, hquiet]
  exact if_neg (Nat.not_lt.mpr hle)

/-! ## Clocks -/

/-- A tick by which the clock of an autosave overruns. -/
def Overruns (a : Autosave) (elapsed : Span) : Prop :=
  ∃ quiet ∈ a.quiet, Span.longest.nanos < quiet.nanos + elapsed.nanos

/-- A tick by which the clock does not overrun is as if it went on for ever. -/
theorem tick?_eq_some_iff {elapsed : Span} {o : Outcome σ} :
    a.tick? store elapsed state = some o ↔
      ¬a.Overruns elapsed ∧ a.tick store elapsed state = o := by
  unfold tick? tick Overruns
  cases a.quiet with
  | none => simp
  | some quiet =>
    rcases Nat.lt_or_ge Span.longest.nanos (quiet.nanos + elapsed.nanos) with beyond | within
    · simp [(Span.add?_eq_none_iff quiet elapsed).mpr beyond, beyond]
    · simp [Span.add?_of_le within, Nat.not_lt.mpr within]

theorem tick?_eq_none_iff {elapsed : Span} :
    a.tick? store elapsed state = none ↔ a.Overruns elapsed := by
  rw [Option.eq_none_iff_forall_ne_some]
  constructor
  · intro h
    by_contra hnot
    exact h _ (tick?_eq_some_iff.mpr ⟨hnot, rfl⟩)
  · rintro h o ho
    exact (tick?_eq_some_iff.mp ho).1 h

/-- An autosave that has not waited for longer than its window. -/
def Waits (a : Autosave) : Prop :=
  ∀ quiet ∈ a.quiet, quiet.nanos ≤ a.debounce.nanos

theorem waits_of_none (hquiet : a.quiet = none) : a.Waits := by
  rw [Waits, hquiet]
  nofun

/-- The clock of such an autosave overruns only by a tick that comes within the window of
all that a clock counts. -/
theorem Waits.lt_of_overruns (h : a.Waits) {elapsed : Span} (hover : a.Overruns elapsed) :
    Span.longest.nanos < a.debounce.nanos + elapsed.nanos := by
  obtain ⟨quiet, hquiet, hlt⟩ := hover
  exact Nat.lt_of_lt_of_le hlt (Nat.add_le_add_right (h quiet hquiet) _)

/-! ## What stays the same -/

theorem flush_changes (a : Autosave) (state : σ) (store : Store σ) :
    ∃ saved revision, (a.flush store state).autosave =
      { a with quiet := none, saved := saved, revision := revision } := by
  unfold flush
  dsimp only
  split
  · exact ⟨a.saved, a.revision, rfl⟩
  · split
    · split
      · exact ⟨a.saved, a.revision, rfl⟩
      · rename_i saved _
        exact ⟨some saved.code, saved.revision, rfl⟩
    · exact ⟨a.saved, a.revision, rfl⟩

theorem tick_changes (a : Autosave) (state : σ) (store : Store σ) (elapsed : Span) :
    ∃ quiet saved revision, (a.tick store elapsed state).autosave =
      { a with quiet := quiet, saved := saved, revision := revision } := by
  cases hquiet : a.quiet with
  | none => exact ⟨a.quiet, a.saved, a.revision, by rw [tick_of_none hquiet]⟩
  | some quiet =>
    by_cases hlt : quiet.nanos + elapsed.nanos < a.debounce.nanos
    · exact ⟨some (quiet.add elapsed), a.saved, a.revision, by rw [tick_of_lt hquiet hlt]⟩
    · rw [tick_of_le hquiet (Nat.not_lt.mp hlt)]
      exact ⟨none, flush_changes a state store⟩

/-- Two autosaves that are of one puzzle and one team, and wait equally long. -/
structure Alike (a b : Autosave) : Prop where
  puzzle : b.puzzle = a.puzzle
  team : b.team = a.team
  debounce : b.debounce = a.debounce

theorem Alike.trans {a b c : Autosave} (h : Alike a b) (h' : Alike b c) : Alike a c where
  puzzle := h'.puzzle.trans h.puzzle
  team := h'.team.trans h.team
  debounce := h'.debounce.trans h.debounce

theorem act_alike (a : Autosave) (state : σ) (action : Act σ) :
    Alike a (a.act state action).autosave := by
  cases action with
  | edit code => constructor <;> rfl
  | tick store elapsed =>
    obtain ⟨quiet, saved, revision, hafter⟩ := tick_changes a state store elapsed
    rw [act, hafter]
    constructor <;> rfl
  | flush store =>
    obtain ⟨saved, revision, hafter⟩ := flush_changes a state store
    rw [act, hafter]
    constructor <;> rfl

theorem actAll_alike (a : Autosave) (state : σ) (acts : List (Act σ)) :
    Alike a (a.actAll state acts).autosave := by
  induction acts generalizing a state with
  | nil => constructor <;> rfl
  | cons action rest ih => exact (act_alike a state action).trans (ih _ _)

/-- Nothing that is done with an autosave makes it wait for longer than its window. -/
theorem Waits.act (h : a.Waits) (state : σ) (action : Act σ) :
    (a.act state action).autosave.Waits := by
  have hflush (store : Store σ) : (a.flush store state).autosave.Waits := by
    obtain ⟨saved, revision, hafter⟩ := flush_changes a state store
    exact waits_of_none (by rw [hafter])
  cases action with
  | edit code =>
    rintro quiet ⟨⟩
    exact Nat.zero_le _
  | flush store => exact hflush store
  | tick store elapsed =>
    rw [Autosave.act]
    cases hquiet : a.quiet with
    | none => rwa [tick_of_none hquiet]
    | some quiet =>
      by_cases hlt : quiet.nanos + elapsed.nanos < a.debounce.nanos
      · rw [tick_of_lt hquiet hlt]
        rintro time ⟨⟩
        exact Nat.le_of_lt hlt
      · rw [tick_of_le hquiet (Nat.not_lt.mp hlt)]
        exact hflush store

/-- A history without a tick that comes so close to all that a clock counts is as if the
clock went on for ever. -/
theorem Waits.actAll?_eq (h : a.Waits) (state : σ) {acts : List (Act σ)}
    (hshort : ∀ store elapsed, .tick store elapsed ∈ acts →
      a.debounce.nanos + elapsed.nanos ≤ Span.longest.nanos) :
    a.actAll? state acts = some (a.actAll state acts) := by
  induction acts generalizing a state with
  | nil => rfl
  | cons action rest ih =>
    have hone : a.act? state action = some (a.act state action) := by
      cases action with
      | tick store elapsed =>
        have hle := hshort store elapsed List.mem_cons_self
        exact tick?_eq_some_iff.mpr
          ⟨fun hover => Nat.not_lt.mpr hle (h.lt_of_overruns hover), rfl⟩
      | _ => rfl
    have hrest := ih (h.act state action) (a.act state action).state fun store elapsed hmem => by
      rw [(act_alike a state action).debounce]
      exact hshort store elapsed (List.mem_cons_of_mem _ hmem)
    rw [actAll?, hone, Option.bind_some, hrest]
    rfl

theorem act_buffer {action : Act σ} (hwait : action.IsWait) (a : Autosave) (state : σ) :
    (a.act state action).autosave.buffer = a.buffer := by
  cases action with
  | edit code => exact hwait.elim
  | tick store elapsed =>
    obtain ⟨quiet, saved, revision, hafter⟩ := tick_changes a state store elapsed
    rw [act, hafter]
  | flush store =>
    obtain ⟨saved, revision, hafter⟩ := flush_changes a state store
    rw [act, hafter]

theorem actAll_buffer {acts : List (Act σ)} (hwaits : ∀ action ∈ acts, action.IsWait)
    (a : Autosave) (state : σ) : (a.actAll state acts).autosave.buffer = a.buffer := by
  induction acts generalizing a state with
  | nil => rfl
  | cons action rest ih =>
    obtain ⟨hfirst, hrest⟩ := List.forall_mem_cons.mp hwaits
    exact (ih hrest _ _).trans (act_buffer hfirst a state)

theorem actAll_append (a : Autosave) (state : σ) (acts later : List (Act σ)) :
    a.actAll state (acts ++ later) =
      let middle := a.actAll state acts
      let last := middle.autosave.actAll middle.state later
      { last with results := middle.results ++ last.results } := by
  induction acts generalizing a state with
  | nil => rfl
  | cons action rest ih => simp only [List.cons_append, actAll, ih]

/-! ## While the script is unsaved -/

/-- A flush of an honest store after which the script is unsaved was refused. -/
theorem flush_of_isDirty {team : String} (hteam : a.team = some team) (hhonest : store.Honest)
    (hdirty : (a.flush store state).autosave.isDirty = true) :
    a.isDirty = true ∧ (a.flush store state).autosave.quiet = none ∧
      (a.flush store state).result.isOk = false := by
  rw [flush_eq hteam] at hdirty ⊢
  by_cases hbefore : a.isDirty = true
  · rw [if_pos hbefore] at hdirty ⊢
    cases hsave : store.save state a.puzzle team a.buffer with
    | mk state' answer =>
      cases answer with
      | error fault => exact ⟨hbefore, rfl, rfl⟩
      | ok saved =>
        -- An honest store kept the script itself, so nothing would be left to save.
        have hcode : saved.code = a.buffer := hhonest _ _ _ _ _ (congrArg Prod.snd hsave)
        rw [hsave] at hdirty
        exact absurd (congrArg some hcode) (isDirty_iff.mp hdirty)
  · rw [if_neg hbefore] at hdirty
    exact absurd hdirty hbefore

/-- The window stays open through a tick or a flush that leaves the script unsaved,
unless it is refused. -/
theorem act_of_isDirty {team : String} (hteam : a.team = some team) {action : Act σ}
    (hwait : action.IsWait) (hdirty : (a.act state action).autosave.isDirty = true) :
    a.isDirty = true ∧ ((a.act state action).autosave.quiet.isSome = true ↔
      a.quiet.isSome = true ∧ (a.act state action).result.isOk = true) := by
  cases action with
  | edit code => exact hwait.elim
  | flush store =>
    obtain ⟨hbefore, hquiet, hresult⟩ := flush_of_isDirty hteam hwait hdirty
    refine ⟨hbefore, ?_⟩
    rw [act, hquiet, hresult]
    simp
  | tick store elapsed =>
    rw [act] at hdirty ⊢
    cases hquiet : a.quiet with
    | none =>
      rw [tick_of_none hquiet] at hdirty ⊢
      refine ⟨hdirty, ?_⟩
      simp [hquiet]
    | some quiet =>
      by_cases hlt : quiet.nanos + elapsed.nanos < a.debounce.nanos
      · rw [tick_of_lt hquiet hlt] at hdirty ⊢
        exact ⟨hdirty, iff_of_true rfl ⟨rfl, rfl⟩⟩
      · rw [tick_of_le hquiet (Nat.not_lt.mp hlt)] at hdirty ⊢
        obtain ⟨hbefore, hclosed, hresult⟩ := flush_of_isDirty hteam hwait hdirty
        refine ⟨hbefore, ?_⟩
        rw [hclosed, hresult]
        simp

/-- As long as the script is unsaved, the window is open exactly if it was open before
and nothing was refused since. -/
theorem actAll_of_isDirty {team : String} (hteam : a.team = some team) {acts : List (Act σ)}
    (hwaits : ∀ action ∈ acts, action.IsWait)
    (hdirty : (a.actAll state acts).autosave.isDirty = true) :
    a.isDirty = true ∧ ((a.actAll state acts).autosave.quiet.isSome = true ↔
      a.quiet.isSome = true ∧ ∀ result ∈ (a.actAll state acts).results, result.isOk = true) := by
  induction acts generalizing a state with
  | nil =>
    refine ⟨hdirty, ?_⟩
    simp [actAll]
  | cons action rest ih =>
    obtain ⟨hfirst, hrest⟩ := List.forall_mem_cons.mp hwaits
    have hteam' : (a.act state action).autosave.team = some team := by
      rw [(act_alike a state action).team, hteam]
    obtain ⟨hmiddle, hlater⟩ := ih hteam' hrest hdirty
    obtain ⟨hbefore, hopen⟩ := act_of_isDirty hteam hfirst hmiddle
    refine ⟨hbefore, ?_⟩
    simp only [actAll, List.forall_mem_cons]
    rw [hlater, hopen, and_assoc]

/-! ## Ticks alone -/

/-- Once the window is closed, time alone saves nothing. -/
theorem actAll_ticks_of_none (hquiet : a.quiet = none) (spans : List Span) :
    a.actAll state (spans.map (.tick store)) = ⟨a, state, spans.map fun _ => .ok false⟩ := by
  induction spans with
  | nil => rfl
  | cons elapsed rest ih =>
    simp only [List.map_cons, actAll, act, tick_of_none hquiet, ih]

/-- Ticks that reach the end of the window save the script. -/
theorem actAll_ticks_of_le {team : String} (hteam : a.team = some team)
    (hdirty : a.isDirty = true) {state' : σ} {saved : SavedCode}
    (hsave : store.save state a.puzzle team a.buffer = (state', .ok saved))
    {quiet : Span} (hquiet : a.quiet = some quiet) {spans : List Span} (hspans : spans ≠ [])
    (hwindow : a.debounce.nanos ≤ quiet.nanos + (Span.total spans).nanos) :
    .ok true ∈ (a.actAll state (spans.map (.tick store))).results ∧
      (a.actAll state (spans.map (.tick store))).state = state' := by
  induction spans generalizing a quiet with
  | nil => exact absurd rfl hspans
  | cons elapsed rest ih =>
    simp only [Span.total, Span.add] at hwindow
    simp only [List.map_cons, actAll, act]
    by_cases hlt : quiet.nanos + elapsed.nanos < a.debounce.nanos
    · rw [tick_of_lt hquiet hlt]
      -- The window is not over yet, so there must be another tick.
      have hrest : rest ≠ [] := by
        rintro rfl
        simp only [Span.total, Span.zero] at hwindow
        omega
      have hleft : a.debounce.nanos ≤
          (quiet.add elapsed).nanos + (Span.total rest).nanos := by
        simp only [Span.add]
        omega
      obtain ⟨htrue, hstate⟩ := ih (a := { a with quiet := some (quiet.add elapsed) })
        hteam hdirty hsave rfl hrest hleft
      exact ⟨List.mem_cons_of_mem _ htrue, hstate⟩
    · rw [tick_of_le hquiet (Nat.not_lt.mp hlt), flush_of_accepted hteam hdirty hsave,
        actAll_ticks_of_none rfl]
      exact ⟨List.mem_cons_self, rfl⟩

/-- Ticks that add up to the quiet window save an unsaved script exactly if the window
is open. -/
theorem actAll_ticks_iff {team : String} (hteam : a.team = some team)
    (hdirty : a.isDirty = true) {state' : σ} {saved : SavedCode}
    (hsave : store.save state a.puzzle team a.buffer = (state', .ok saved))
    {spans : List Span} (hspans : spans ≠ [])
    (hwindow : a.debounce.nanos ≤ (Span.total spans).nanos) :
    (.ok true ∈ (a.actAll state (spans.map (.tick store))).results ∧
      (a.actAll state (spans.map (.tick store))).state = state') ↔ a.quiet.isSome = true := by
  cases hquiet : a.quiet with
  | none =>
    rw [actAll_ticks_of_none hquiet]
    simp
  | some quiet =>
    have hleft : a.debounce.nanos ≤ quiet.nanos + (Span.total spans).nanos := by omega
    exact iff_of_true (actAll_ticks_of_le hteam hdirty hsave hquiet hspans hleft) rfl

/-! ## The whole history -/

theorem start_eq {puzzle : String} {team : Option String} {config : AutosaveConfig}
    (hstart : start store state puzzle team config = .ok a) :
    a.puzzle = puzzle ∧ a.team = team ∧ a.debounce = config.debounceSpan := by
  unfold start at hstart
  split at hstart
  · cases hstart
  · cases hstart
    exact ⟨rfl, rfl, rfl⟩

theorem actAll_edit (a : Autosave) (state : σ) (before : List (Act σ)) (code : String) :
    (a.actAll state (before ++ [.edit code])).autosave =
      (a.actAll state before).autosave.edit code := by
  rw [actAll_append]
  rfl

/-- An autosave was opened for a team, and lived through any history that ended with an
edit and through ticks and flushes after it. The script of that edit is still unsaved,
and the store would accept it now. Then ticks that add up to the quiet window save it
exactly if no save was refused since the edit. -/
theorem actAll_saves_iff {store₀ : Store σ} {state₀ : σ} {puzzle team : String}
    {config : AutosaveConfig} (hstart : start store₀ state₀ puzzle (some team) config = .ok a)
    (before : List (Act σ)) (code : String) {after : List (Act σ)}
    (hafter : ∀ action ∈ after, action.IsWait) {edited waited : Outcomes σ}
    (hedited : a.actAll state₀ (before ++ [.edit code]) = edited)
    (hwaited : edited.autosave.actAll edited.state after = waited)
    (hunsaved : waited.autosave.saved ≠ some code) {state' : σ} {saved : SavedCode}
    (hsave : store.save waited.state puzzle team code = (state', .ok saved))
    {spans : List Span} (hspans : spans ≠ [])
    (hwindow : config.debounceSpan.nanos ≤ (Span.total spans).nanos) {last : Outcomes σ}
    (hlast : waited.autosave.actAll waited.state (spans.map (.tick store)) = last) :
    (.ok true ∈ last.results ∧ last.state = state') ↔
      ∀ result ∈ waited.results, result.isOk = true := by
  obtain ⟨hpuzzle, hteam, hdebounce⟩ := start_eq hstart
  have hedit : edited.autosave = (a.actAll state₀ before).autosave.edit code := by
    rw [← hedited, actAll_edit]
  have hopen : edited.autosave.quiet.isSome = true := by
    rw [hedit]
    rfl
  -- The ticks find the script of the edit, and the place and the window of the start.
  have hbuffer : waited.autosave.buffer = code := by
    rw [← hwaited, actAll_buffer hafter, hedit]
    rfl
  have halike : Alike a edited.autosave := hedited ▸ actAll_alike a state₀ _
  have hstill : Alike a waited.autosave := halike.trans (hwaited ▸ actAll_alike _ _ after)
  have hdirty : waited.autosave.isDirty = true := by
    rw [isDirty_iff, hbuffer]
    exact hunsaved
  rw [← hpuzzle, ← hstill.puzzle, ← hbuffer] at hsave
  rw [← hdebounce, ← hstill.debounce] at hwindow
  have hlater := actAll_of_isDirty (halike.team.trans hteam) hafter (hwaited ▸ hdirty)
  rw [hwaited] at hlater
  subst hlast
  calc (.ok true ∈ (waited.autosave.actAll waited.state (spans.map (.tick store))).results ∧
        (waited.autosave.actAll waited.state (spans.map (.tick store))).state = state')
      ↔ waited.autosave.quiet.isSome = true :=
        actAll_ticks_iff (hstill.team.trans hteam) hdirty hsave hspans hwindow
    _ ↔ edited.autosave.quiet.isSome = true ∧ ∀ result ∈ waited.results, result.isOk = true :=
        hlater.2
    _ ↔ ∀ result ∈ waited.results, result.isOk = true := and_iff_right hopen

/-- An autosave as it opens for a team that has saved nothing. -/
def opened : Autosave where
  puzzle := "first-steps"
  team := some "red"
  debounce := .ofMillis 2000
  buffer := Script.starter
  saved := none
  quiet := none
  revision := 0

/-- A script is edited, and the store refuses it when the window is over. -/
def refusal : List (Act Shelf) :=
  [.edit "move()",
    .tick (Store.inMemory.refusing (.unwritable "store/red" .notDirectory)) (.ofMillis 2000)]

/-- Time that does not reach the end of the window. -/
def pause : List (Act Shelf) :=
  [.tick .inMemory (.ofMillis 1500)]

/-- After a refusal another edit is saved all the same, once it has rested. -/
theorem actAll_saves_next_edit :
    let edited := opened.actAll .empty (refusal ++ [.edit "turn_left()"])
    let waited := edited.autosave.actAll edited.state pause
    let spans := [Span.ofMillis 1000, Span.ofMillis 1000]
    let last := waited.autosave.actAll waited.state (spans.map (.tick .inMemory))
    let shelf : Shelf := ⟨[(("red", "first-steps"), ⟨"turn_left()", 1⟩)]⟩
    start .inMemory .empty "first-steps" (some "red") {} = .ok opened ∧
      (∀ action ∈ pause, action.IsWait) ∧ waited.autosave.saved ≠ some "turn_left()" ∧
      Store.inMemory.save waited.state "first-steps" "red" "turn_left()" =
        (shelf, .ok ⟨"turn_left()", 1⟩) ∧
      ({} : AutosaveConfig).debounceSpan.nanos ≤ (Span.total spans).nanos ∧
      (∀ result ∈ waited.results, result.isOk = true) ∧
      .ok true ∈ last.results ∧ last.state = shelf := by
  intro edited waited spans last shelf
  have hstart : start .inMemory .empty "first-steps" (some "red") {} = .ok opened := rfl
  have hwaits : ∀ action ∈ pause, action.IsWait := by
    intro action haction
    rw [List.mem_singleton.mp haction]
    exact Store.inMemory_honest
  have hunsaved : waited.autosave.saved ≠ some "turn_left()" := by decide
  have hsave : Store.inMemory.save waited.state "first-steps" "red" "turn_left()" =
      (shelf, .ok ⟨"turn_left()", 1⟩) := by decide
  have hspans : spans ≠ [] := by decide
  have hwindow : ({} : AutosaveConfig).debounceSpan.nanos ≤ (Span.total spans).nanos := by decide
  have hresults : ∀ result ∈ waited.results, result.isOk = true := by decide
  refine ⟨hstart, hwaits, hunsaved, hsave, hwindow, hresults, ?_⟩
  exact (actAll_saves_iff hstart refusal "turn_left()" hwaits rfl rfl hunsaved hsave hspans
    hwindow rfl).mpr hresults

/-- After a refusal another whole window goes by and the script of the edit is not saved,
although the store would accept it. -/
theorem actAll_ticks_refusal :
    start .inMemory .empty "first-steps" (some "red") {} = .ok opened ∧
      let waited := opened.actAll .empty refusal
      let last := waited.autosave.actAll waited.state [.tick .inMemory (.ofMillis 2000)]
      waited.results =
          [.ok false, .error (.unwritable "store/red" .notDirectory)] ∧
        waited.autosave.buffer = "move()" ∧ waited.autosave.saved = none ∧
        waited.state = .empty ∧
        (Store.inMemory.save waited.state "first-steps" "red" "move()").2 =
          .ok ⟨"move()", 1⟩ ∧
        last.results = [.ok false] ∧ last.state = .empty := by
  refine ⟨rfl, ?_⟩
  decide

end Autosave

end MazeRobot

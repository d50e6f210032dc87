import MazeRobot.Proofs.Autosaves
import Mathlib.Data.List.Chain

/-!
# An autosave in step with its store

An autosave keeps the script and the revision that it saved last, and as long as
nobody else saves under its key these are the ones on the shelf. So it knows when
there is something to save without asking. A save changes the entry of its key and
no other. It is made at the tick at which the time since the last edit reaches the
window, unless somebody wished for one before. Nothing is saved twice in a row. A tick
is not answered if its clock overruns, and that takes a tick of about all that a clock
counts.
-/

namespace MazeRobot

namespace Store

/-- A save on a shelf changes the entry of its key. -/
theorem get?_save (shelf : Shelf) (puzzle team code : String) (key : String × String) :
    (inMemory.save shelf puzzle team code).1.get? key =
      if (team, puzzle) = key then some ⟨code, nextRevision (shelf.get? (team, puzzle))⟩
      else shelf.get? key :=
  Shelf.get?_put shelf (team, puzzle) key _

end Store

namespace Autosave

/-! ### What an autosave knows -/

section Knowledge

variable {a : Autosave} {shelf : Shelf} {team puzzle : String} {o : Outcome Shelf}
  {elapsed time : Span}

/-- An autosave of a team knows what the shelf holds for it. -/
structure Tracks (team puzzle : String) (a : Autosave) (shelf : Shelf) : Prop where
  /-- It is open for the team. -/
  ofTeam : a.team = some team
  /-- It is open for the puzzle. -/
  ofPuzzle : a.puzzle = puzzle
  /-- The script that was saved last is the one on the shelf. -/
  saved : a.saved = (shelf.get? (team, puzzle)).map (·.code)
  /-- Its revision is the one on the shelf, or zero if there is none. -/
  revision : a.revision = ((shelf.get? (team, puzzle)).map (·.revision)).getD 0

/-- What comes of a tick or a flush. -/
structure Settles (team puzzle : String) (a : Autosave) (shelf : Shelf) (o : Outcome Shelf) :
    Prop where
  /-- It does not fail. -/
  answered : ∃ saved, o.result = .ok saved
  /-- It tells of a save exactly if the shelf has changed. -/
  told : o.result = .ok true ↔ o.state ≠ shelf
  /-- A save puts the script there as it is now, with the next revision. -/
  kept : o.result = .ok true →
    o.state.get? (team, puzzle) = some ⟨a.buffer, a.revision + 1⟩

/-- An autosave and the shelf after a save. -/
def saving (a : Autosave) (team : String) (shelf : Shelf) : Outcome Shelf :=
  ⟨{ a with quiet := none, revision := a.revision + 1, saved := some a.buffer },
    shelf.put (team, a.puzzle) ⟨a.buffer, a.revision + 1⟩, .ok true⟩

/-- An autosave and the shelf if there is no save. -/
def waiting (a : Autosave) (quiet : Option Span) (shelf : Shelf) : Outcome Shelf :=
  ⟨{ a with quiet := quiet }, shelf, .ok false⟩

theorem scriptsOf_saving : scriptsOf a (a.saving team shelf) = [a.buffer] := rfl

/-- A tick is due if it ends the window of an edit. -/
def IsDue (a : Autosave) (elapsed : Span) : Prop :=
  ∃ quiet ∈ a.quiet, a.debounce.nanos ≤ quiet.nanos + elapsed.nanos

instance (a : Autosave) (elapsed : Span) : Decidable (a.IsDue elapsed) :=
  inferInstanceAs (Decidable (∃ quiet ∈ a.quiet, _))

/-- An autosave finds out when it is opened. -/
theorem exists_start (shelf : Shelf) (puzzle : String) (team : Option String)
    (config : AutosaveConfig) : ∃ a, start .inMemory shelf puzzle team config = .ok a ∧
      a.debounce = config.debounceSpan ∧ a.quiet = none ∧ a.team = team ∧
      ∀ name, team = some name → Tracks name puzzle a shelf := by
  cases team with
  | none => exact ⟨_, rfl, rfl, rfl, rfl, fun _ hteam => by cases hteam⟩
  | some team =>
    refine ⟨_, rfl, rfl, rfl, rfl, fun _ hteam => ?_⟩
    obtain rfl := Option.some.inj hteam
    exact ⟨rfl, rfl, rfl, rfl⟩

theorem isDue_iff {quiet : Span} (hquiet : a.quiet = some quiet) :
    a.IsDue elapsed ↔ a.debounce.nanos ≤ quiet.nanos + elapsed.nanos := by
  simp [IsDue, hquiet]

/-- After a flush no window is open. -/
theorem quiet_flush (a : Autosave) (shelf : Shelf) :
    (a.flush .inMemory shelf).autosave.quiet = none := by
  obtain ⟨saved, revision, hafter⟩ := flush_changes a shelf .inMemory
  rw [hafter]

/-- After a tick a window is open if it was before and is not over. -/
theorem quiet_tick_eq_some (a : Autosave) (shelf : Shelf) :
    (a.tick .inMemory elapsed shelf).autosave.quiet = some time ↔
      ∃ quiet, a.quiet = some quiet ∧ quiet.nanos + elapsed.nanos < a.debounce.nanos ∧
        time = quiet.add elapsed := by
  cases hquiet : a.quiet with
  | none =>
    rw [tick_of_none hquiet, hquiet]
    simp
  | some quiet =>
    by_cases hlt : quiet.nanos + elapsed.nanos < a.debounce.nanos
    · rw [tick_of_lt hquiet hlt]
      simp [hlt, eq_comm]
    · rw [tick_of_le hquiet (Nat.not_lt.mp hlt), quiet_flush]
      simp [hlt]

/-- Where there is no save, nothing has changed. -/
theorem settles_waiting (quiet : Option Span) :
    Settles team puzzle a shelf (a.waiting quiet shelf) where
  answered := ⟨false, rfl⟩
  told := iff_of_false (by simp [waiting]) (not_not_intro rfl)
  kept := by simp [waiting]

namespace Tracks

/-- The next revision is the one behind that of the autosave. -/
theorem nextRevision_eq (h : Tracks team puzzle a shelf) :
    Store.nextRevision (shelf.get? (team, puzzle)) = a.revision + 1 := by
  rw [h.revision]
  cases shelf.get? (team, puzzle) <;> rfl

/-- The script is unsaved exactly if the shelf holds another one, or none. -/
theorem isDirty_iff (h : Tracks team puzzle a shelf) :
    a.isDirty = true ↔ (shelf.get? (team, puzzle)).map (·.code) ≠ some a.buffer := by
  rw [Autosave.isDirty_iff, h.saved]

/-- A flush saves if there is something to save. -/
theorem flush_eq (h : Tracks team puzzle a shelf) : a.flush .inMemory shelf =
    if a.isDirty = true then a.saving team shelf else a.waiting none shelf := by
  by_cases hdirty : a.isDirty = true
  · rw [if_pos hdirty]
    have hsave : Store.inMemory.save shelf a.puzzle team a.buffer =
        (shelf.put (team, a.puzzle) ⟨a.buffer, a.revision + 1⟩,
          .ok ⟨a.buffer, a.revision + 1⟩) := by
      rw [← h.nextRevision_eq, h.ofPuzzle]
      rfl
    exact flush_of_accepted h.ofTeam hdirty hsave
  · rw [Autosave.flush_eq h.ofTeam, if_neg hdirty, if_neg hdirty]
    rfl

/-- A tick saves if it is due and there is something to save. -/
theorem exists_tick_eq (h : Tracks team puzzle a shelf) (elapsed : Span) :
    ∃ quiet, a.tick .inMemory elapsed shelf =
      if a.IsDue elapsed ∧ a.isDirty = true then a.saving team shelf
      else a.waiting quiet shelf := by
  cases hquiet : a.quiet with
  | none =>
    refine ⟨a.quiet, ?_⟩
    rw [tick_of_none hquiet, if_neg (by simp [IsDue, hquiet])]
    rfl
  | some quiet =>
    by_cases hdue : a.IsDue elapsed
    · refine ⟨none, ?_⟩
      rw [tick_of_le hquiet ((isDue_iff hquiet).mp hdue), h.flush_eq]
      simp only [hdue, true_and]
    · refine ⟨some (quiet.add elapsed), ?_⟩
      rw [if_neg fun hnow => hdue hnow.1, tick_of_lt hquiet]
      · rfl
      · exact Nat.not_le.mp fun hle => hdue ((isDue_iff hquiet).mpr hle)

/-- A save changes the entry of the autosave and no other. -/
theorem get?_saving (h : Tracks team puzzle a shelf) (key : String × String) :
    (a.saving team shelf).state.get? key =
      if (team, puzzle) = key then some ⟨a.buffer, a.revision + 1⟩ else shelf.get? key := by
  rw [← h.ofPuzzle]
  exact Shelf.get?_put shelf (team, a.puzzle) key _

/-- After a save an autosave knows the shelf. -/
theorem saving (h : Tracks team puzzle a shelf) :
    Tracks team puzzle (a.saving team shelf).autosave (a.saving team shelf).state := by
  have hkept := h.get?_saving (team, puzzle)
  rw [if_pos rfl] at hkept
  refine ⟨h.ofTeam, h.ofPuzzle, ?_, ?_⟩
  · rw [hkept]
    rfl
  · rw [hkept]
    rfl

/-- A save changes the shelf if there is something to save. -/
theorem settles_saving (h : Tracks team puzzle a shelf) (hdirty : a.isDirty = true) :
    Settles team puzzle a shelf (a.saving team shelf) := by
  have hkept := h.get?_saving (team, puzzle)
  rw [if_pos rfl] at hkept
  have hchanged : (a.saving team shelf).state ≠ shelf := by
    intro hsame
    rw [hsame] at hkept
    exact h.isDirty_iff.mp hdirty (by rw [hkept]; rfl)
  exact ⟨⟨true, rfl⟩, iff_of_true rfl hchanged, fun _ => hkept⟩

/-- What saves at the right time or waits else is settled. -/
theorem settles (h : Tracks team puzzle a shelf) {now : Prop} [Decidable now] {quiet : Option Span}
    (hnow : now → a.isDirty = true)
    (ho : o = if now then a.saving team shelf else a.waiting quiet shelf) :
    Settles team puzzle a shelf o ∧ (o.result = .ok true ↔ now) := by
  subst ho
  by_cases hcase : now
  · rw [if_pos hcase]
    exact ⟨h.settles_saving (hnow hcase), iff_of_true rfl hcase⟩
  · rw [if_neg hcase]
    exact ⟨settles_waiting quiet, iff_of_false (by simp [waiting]) hcase⟩

/-- A flush saves exactly if there is something to save. -/
theorem settles_flush (h : Tracks team puzzle a shelf) :
    Settles team puzzle a shelf (a.flush .inMemory shelf) ∧
      ((a.flush .inMemory shelf).result = .ok true ↔ a.isDirty = true) :=
  h.settles id h.flush_eq

/-- A tick saves exactly if it is due and there is something to save. -/
theorem settles_tick (h : Tracks team puzzle a shelf) (elapsed : Span) :
    Settles team puzzle a shelf (a.tick .inMemory elapsed shelf) ∧
      ((a.tick .inMemory elapsed shelf).result = .ok true ↔
        a.IsDue elapsed ∧ a.isDirty = true) := by
  obtain ⟨quiet, htick⟩ := h.exists_tick_eq elapsed
  exact h.settles And.right htick

/-- All that can happen at the shelf of an autosave: the script is edited or it is not
the time for a save, a save of an unsaved script, or somebody else's save. -/
theorem meet_cases (h : Tracks team puzzle a shelf) (deed : Deed) :
    (∃ buffer quiet, a.meet shelf deed =
        ⟨{ a with buffer := buffer, quiet := quiet }, shelf, .ok false⟩ ∧
      ∀ first, othersAlone first [deed] = first) ∨
    (a.isDirty = true ∧ a.meet shelf deed = a.saving team shelf ∧
      ∀ first, othersAlone first [deed] = first) ∨
    ∃ other others code, deed = .elsewhere other others code := by
  cases deed with
  | edit code => exact .inl ⟨code, some .zero, rfl, fun _ => rfl⟩
  | tick elapsed =>
    obtain ⟨quiet, htick⟩ := h.exists_tick_eq elapsed
    by_cases hnow : a.IsDue elapsed ∧ a.isDirty = true
    · rw [if_pos hnow] at htick
      exact .inr (.inl ⟨hnow.2, htick, fun _ => rfl⟩)
    · rw [if_neg hnow] at htick
      exact .inl ⟨a.buffer, quiet, htick, fun _ => rfl⟩
  | flush =>
    by_cases hdirty : a.isDirty = true
    · exact .inr (.inl ⟨hdirty, h.flush_eq.trans (if_pos hdirty), fun _ => rfl⟩)
    · exact .inl ⟨a.buffer, none, h.flush_eq.trans (if_neg hdirty), fun _ => rfl⟩
  | elsewhere other others code => exact .inr (.inr ⟨other, others, code, rfl⟩)

/-- Whatever happens at the shelf, an autosave knows it as long as nobody else saves
under its key. -/
theorem meet (h : Tracks team puzzle a shelf) {deed : Deed}
    (hspares : deed.Spares (team, puzzle)) :
    Tracks team puzzle (a.meet shelf deed).autosave (a.meet shelf deed).state := by
  obtain ⟨buffer, quiet, hmeet, -⟩ | ⟨-, hmeet, -⟩ | ⟨other, others, code, rfl⟩ :=
    h.meet_cases deed
  · rw [hmeet]
    exact ⟨h.ofTeam, h.ofPuzzle, h.saved, h.revision⟩
  · rw [hmeet]
    exact h.saving
  · have hsame := Store.get?_save shelf other others code (team, puzzle)
    rw [if_neg hspares] at hsame
    refine ⟨h.ofTeam, h.ofPuzzle, ?_, ?_⟩
    · exact h.saved.trans (congrArg (Option.map (·.code)) hsame.symm)
    · exact h.revision.trans
        (congrArg (fun entry => (entry.map SavedCode.revision).getD 0) hsame.symm)

end Tracks

end Knowledge

/-! ### The time since the last edit -/

section Rest

variable {window time elapsed : Span} {history : List Deed} {deed : Deed}

/-- A list with a marked item, one longer: the new item is the mark, or it comes
behind. -/
theorem append_singleton_eq_iff {α : Type} {items before behind : List α} {last mark : α} :
    items ++ [last] = before ++ mark :: behind ↔
      (behind = [] ∧ last = mark ∧ items = before) ∨
        ∃ rest, behind = rest ++ [last] ∧ items = before ++ mark :: rest := by
  constructor
  · intro h
    rcases List.eq_nil_or_concat behind with rfl | ⟨rest, final, rfl⟩
    · obtain ⟨hitems, hlast⟩ := List.append_inj' h rfl
      exact .inl ⟨rfl, List.singleton_inj.mp hlast, hitems⟩
    · rw [List.concat_eq_append, ← List.cons_append, ← List.append_assoc] at h
      obtain ⟨hitems, hlast⟩ := List.append_inj' h rfl
      refine .inr ⟨rest, ?_, hitems⟩
      rw [List.concat_eq_append, List.singleton_inj.mp hlast]
  · rintro (⟨rfl, rfl, rfl⟩ | ⟨rest, rfl, rfl⟩)
    · rfl
    · rw [List.append_assoc, List.cons_append]

/-- The window was not over at any tick among some deeds. -/
def Early (window : Span) (deeds : List Deed) : Prop :=
  ∀ before elapsed behind, deeds = before ++ .tick elapsed :: behind →
    (Deed.time before).nanos + elapsed.nanos < window.nanos

/-- The last edit of a history is so long ago. There was no flush since then, and at
no tick was the window over. -/
def Rests (window : Span) (history : List Deed) (time : Span) : Prop :=
  ∃ before code since, history = before ++ .edit code :: since ∧
    (∀ deed ∈ since, deed.isRest = true) ∧ Early window since ∧ time = Deed.time since

theorem total_append_singleton (spans : List Span) (last : Span) :
    Span.total (spans ++ [last]) = (Span.total spans).add last := by
  induction spans with
  | nil => simp [Span.total, Span.zero, Span.add]
  | cons span rest ih =>
    simp only [List.cons_append, Span.total, Span.add, Span.mk.injEq, ih]
    omega

theorem time_append_tick (deeds : List Deed) (elapsed : Span) :
    Deed.time (deeds ++ [.tick elapsed]) = (Deed.time deeds).add elapsed := by
  rw [Deed.time, List.filterMap_append]
  exact total_append_singleton _ elapsed

theorem time_append_elsewhere (deeds : List Deed) (puzzle team code : String) :
    Deed.time (deeds ++ [.elsewhere puzzle team code]) = Deed.time deeds := by
  rw [Deed.time, List.filterMap_append]
  exact congrArg Span.total (List.append_nil _)

theorem early_nil : Early window [] := fun before _ _ hsplit =>
  absurd hsplit.symm (List.append_ne_nil_of_right_ne_nil before (List.cons_ne_nil _ _))

theorem early_append_tick (deeds : List Deed) :
    Early window (deeds ++ [.tick elapsed]) ↔
      Early window deeds ∧ (Deed.time deeds).nanos + elapsed.nanos < window.nanos := by
  constructor
  · intro h
    refine ⟨fun before span behind hsplit => ?_, h deeds elapsed [] rfl⟩
    exact h before span (behind ++ [.tick elapsed]) (by rw [hsplit]; simp)
  · rintro ⟨hearly, hlast⟩ before span behind hsplit
    obtain ⟨-, hspan, rfl⟩ | ⟨rest, -, hbefore⟩ := append_singleton_eq_iff.mp hsplit
    · obtain rfl := Deed.tick.inj hspan
      exact hlast
    · exact hearly before span rest hbefore

theorem early_append_elsewhere (deeds : List Deed) {puzzle team code : String} :
    Early window (deeds ++ [.elsewhere puzzle team code]) ↔ Early window deeds := by
  constructor
  · intro h before span behind hsplit
    exact h before span (behind ++ [.elsewhere puzzle team code]) (by rw [hsplit]; simp)
  · intro h before span behind hsplit
    obtain ⟨-, hspan, -⟩ | ⟨rest, -, hbefore⟩ := append_singleton_eq_iff.mp hsplit
    · cases hspan
    · exact h before span rest hbefore

theorem not_rests_nil : ¬Rests window [] time := by
  rintro ⟨before, code, since, hsplit, -⟩
  exact List.append_ne_nil_of_right_ne_nil _ (List.cons_ne_nil _ _) hsplit.symm

/-- An edit begins the time anew. -/
theorem rests_append_edit {code : String} :
    Rests window (history ++ [.edit code]) time ↔ time = .zero := by
  constructor
  · rintro ⟨before, text, since, hsplit, hrest, -, rfl⟩
    obtain ⟨rfl, -⟩ | ⟨rest, rfl, -⟩ := append_singleton_eq_iff.mp hsplit
    · rfl
    · cases hrest (.edit code) (List.mem_append_right _ (List.mem_singleton_self _))
  · rintro rfl
    refine ⟨history, code, [], rfl, fun _ h => absurd h List.not_mem_nil, early_nil, rfl⟩

/-- A flush ends it. -/
theorem not_rests_append_flush : ¬Rests window (history ++ [.flush]) time := by
  rintro ⟨before, text, since, hsplit, hrest, -⟩
  obtain ⟨-, hlast, -⟩ | ⟨rest, rfl, -⟩ := append_singleton_eq_iff.mp hsplit
  · cases hlast
  · cases hrest .flush (List.mem_append_right _ (List.mem_singleton_self _))

/-- Between edits and flushes, the deeds since the last edit grow with the history. -/
theorem rests_append_of_isRest (hdeed : deed.isRest = true) :
    Rests window (history ++ [deed]) time ↔
      ∃ before code since, history = before ++ .edit code :: since ∧
        (∀ other ∈ since, other.isRest = true) ∧ Early window (since ++ [deed]) ∧
        time = Deed.time (since ++ [deed]) := by
  constructor
  · rintro ⟨before, code, since, hsplit, hrest, hearly, htime⟩
    obtain ⟨-, rfl, -⟩ | ⟨rest, rfl, hhistory⟩ := append_singleton_eq_iff.mp hsplit
    · cases hdeed
    · refine ⟨before, code, rest, hhistory, fun other hother => ?_, hearly, htime⟩
      exact hrest other (List.mem_append_left _ hother)
  · rintro ⟨before, code, since, rfl, hrest, hearly, htime⟩
    refine ⟨before, code, since ++ [deed], by simp, ?_, hearly, htime⟩
    intro other hother
    obtain hother | hother := List.mem_append.mp hother
    · exact hrest other hother
    · rwa [List.mem_singleton.mp hother]

/-- A tick adds to the time unless it ends the window. -/
theorem rests_append_tick :
    Rests window (history ++ [.tick elapsed]) time ↔
      ∃ quiet, Rests window history quiet ∧ quiet.nanos + elapsed.nanos < window.nanos ∧
        time = quiet.add elapsed := by
  rw [rests_append_of_isRest rfl]
  constructor
  · rintro ⟨before, code, since, hsplit, hrest, hearly, rfl⟩
    obtain ⟨hbefore, hlast⟩ := (early_append_tick since).mp hearly
    exact ⟨Deed.time since, ⟨before, code, since, hsplit, hrest, hbefore, rfl⟩, hlast,
      time_append_tick since elapsed⟩
  · rintro ⟨_, ⟨before, code, since, hsplit, hrest, hearly, rfl⟩, hlast, rfl⟩
    exact ⟨before, code, since, hsplit, hrest, (early_append_tick since).mpr ⟨hearly, hlast⟩,
      (time_append_tick since elapsed).symm⟩

/-- What others save takes no time. -/
theorem rests_append_elsewhere {puzzle team code : String} :
    Rests window (history ++ [.elsewhere puzzle team code]) time ↔
      Rests window history time := by
  rw [rests_append_of_isRest rfl]
  simp only [early_append_elsewhere, time_append_elsewhere]
  rfl

end Rest

/-! ### Whole histories -/

section Histories

variable {first : Shelf} {team puzzle : String} {window : Span} {history : List Deed}
  {now : Ledger}

theorem meetAll_append_singleton (a : Autosave) (shelf : Shelf) (history : List Deed)
    (deed : Deed) :
    a.meetAll shelf (history ++ [deed]) =
      let now := a.meetAll shelf history
      let next := now.autosave.meet now.shelf deed
      ⟨next.autosave, next.state, now.scripts ++ scriptsOf now.autosave next⟩ := by
  induction history generalizing a shelf with
  | nil => simp [meetAll]
  | cons early rest ih => simp [meetAll, ih]

theorem othersAlone_append (first : Shelf) (history later : List Deed) :
    othersAlone first (history ++ later) = othersAlone (othersAlone first history) later := by
  induction history generalizing first with
  | nil => rfl
  | cons early rest ih => cases early <;> exact ih _

/-- The scripts that stood under a key, in order: the one that was there and those that
were saved. -/
def successive (first : Shelf) (key : String × String) (scripts : List String) : List String :=
  ((first.get? key).map (·.code)).toList ++ scripts

/-- What holds of an autosave of a team all along, if nobody else saves under its key. -/
structure InStep (team puzzle : String) (window : Span) (first : Shelf) (history : List Deed)
    (now : Ledger) : Prop where
  /-- It knows what the shelf holds. -/
  tracks : Tracks team puzzle now.autosave now.shelf
  /-- It waits for its window. -/
  debounce : now.autosave.debounce = window
  /-- It counts the time since the last edit. -/
  quiet : ∀ time, now.autosave.quiet = some time ↔ Rests window history time
  /-- The script that it saved last is the latest. -/
  latest : (successive first (team, puzzle) now.scripts).getLast? = now.autosave.saved
  /-- No script came twice in a row. -/
  changing : (successive first (team, puzzle) now.scripts).IsChain (· ≠ ·)
  /-- Under other keys the shelf is as others left it. -/
  others : ∀ key ≠ (team, puzzle), now.shelf.get? key = (othersAlone first history).get? key

namespace InStep

/-- The time since the last edit is counted on through a deed. -/
theorem quiet_meet (h : InStep team puzzle window first history now) (deed : Deed)
    (time : Span) :
    (now.autosave.meet now.shelf deed).autosave.quiet = some time ↔
      Rests window (history ++ [deed]) time := by
  cases deed with
  | edit code =>
    rw [rests_append_edit]
    exact Option.some_inj.trans eq_comm
  | tick elapsed =>
    rw [rests_append_tick]
    simp only [← h.quiet]
    rw [← h.debounce]
    exact quiet_tick_eq_some now.autosave now.shelf
  | flush =>
    refine iff_of_false ?_ not_rests_append_flush
    rw [meet, act, quiet_flush]
    exact (Option.some_ne_none time).symm
  | elsewhere other others code =>
    rw [rests_append_elsewhere]
    exact h.quiet time

/-- What holds before a deed holds after it. -/
theorem meet (h : InStep team puzzle window first history now) {deed : Deed}
    (hspares : deed.Spares (team, puzzle)) :
    let next := now.autosave.meet now.shelf deed
    InStep team puzzle window first (history ++ [deed])
      ⟨next.autosave, next.state, now.scripts ++ scriptsOf now.autosave next⟩ := by
  intro next
  have htracks := h.tracks.meet hspares
  have hquiet := h.quiet_meet deed
  obtain ⟨buffer, quiet, hmeet, halone⟩ | ⟨hdirty, hmeet, halone⟩ |
    ⟨other, others, code, rfl⟩ := h.tracks.meet_cases deed
  · rw [hmeet] at htracks hquiet
    simp only [next, hmeet, scriptsOf, List.append_nil]
    refine ⟨htracks, h.debounce, hquiet, h.latest, h.changing, fun key hkey => ?_⟩
    rw [othersAlone_append, halone]
    exact h.others key hkey
  · rw [hmeet] at htracks hquiet
    have hsaved := Autosave.isDirty_iff.mp hdirty
    simp only [next, hmeet, scriptsOf_saving]
    refine ⟨htracks, h.debounce, hquiet, ?_, ?_, fun key hkey => ?_⟩
    · rw [successive, ← List.append_assoc, List.getLast?_concat]
      rfl
    · rw [successive, ← List.append_assoc]
      refine h.changing.append (.singleton _) fun last hlast code hcode => ?_
      rw [h.latest] at hlast
      obtain rfl := Option.some.inj hcode
      rintro rfl
      exact hsaved hlast
    · rw [othersAlone_append, halone, h.tracks.get?_saving, if_neg hkey.symm]
      exact h.others key hkey
  · simp only [next, Autosave.meet, scriptsOf, List.append_nil]
    refine ⟨htracks, h.debounce, hquiet, h.latest, h.changing, fun key hkey => ?_⟩
    -- The revision of the new entry comes from an entry that the autosave leaves alone.
    rw [othersAlone_append, othersAlone, othersAlone, Store.get?_save, Store.get?_save,
      h.others _ hspares, h.others _ hkey]

/-- At every moment of a history an autosave is in step with its shelf, if it was just
opened at the first. -/
theorem meetAll {a : Autosave} (htracks : Tracks team puzzle a first)
    (hquiet : a.quiet = none) (hspares : ∀ deed ∈ history, deed.Spares (team, puzzle)) :
    InStep team puzzle a.debounce first history (a.meetAll first history) := by
  induction history using List.reverseRecOn with
  | nil =>
    refine ⟨htracks, rfl, fun time => iff_of_false ?_ not_rests_nil, ?_, ?_, fun _ _ => rfl⟩
    · exact hquiet ▸ nofun
    · rw [Autosave.meetAll, htracks.saved, successive, List.append_nil]
      cases (first.get? (team, puzzle)).map (·.code) <;> rfl
    · rw [Autosave.meetAll, successive, List.append_nil]
      cases (first.get? (team, puzzle)).map (·.code) <;> simp
  | append_singleton history deed ih =>
    obtain ⟨hhistory, hdeed⟩ := List.forall_mem_append.mp hspares
    rw [meetAll_append_singleton]
    exact (ih hhistory).meet (hdeed deed (List.mem_singleton_self deed))

/-- A tick is due exactly if it is the first one since the last edit that reaches the
window. -/
theorem isDue_iff (h : InStep team puzzle window first history now) (elapsed : Span) :
    now.autosave.IsDue elapsed ↔
      ∃ time, Rests window history time ∧ window.nanos ≤ time.nanos + elapsed.nanos := by
  simp only [← h.quiet]
  rw [← h.debounce]
  rfl

end InStep

/-- Without a team nothing is saved. -/
theorem meet_of_teamless {a : Autosave} (hteam : a.team = none) (shelf : Shelf) (deed : Deed) :
    (a.meet shelf deed).autosave.team = none ∧
      (a.meet shelf deed).state = othersAlone shelf [deed] := by
  have hflush : a.flush .inMemory shelf = a.waiting none shelf := by
    cases a
    cases hteam
    rfl
  cases deed with
  | edit code => exact ⟨hteam, rfl⟩
  | tick elapsed =>
    refine ⟨(act_alike a shelf (.tick .inMemory elapsed)).team.trans hteam, ?_⟩
    rw [Autosave.meet, act]
    cases hquiet : a.quiet with
    | none => rw [tick_of_none hquiet, othersAlone, othersAlone]
    | some quiet =>
      by_cases hlt : quiet.nanos + elapsed.nanos < a.debounce.nanos
      · rw [tick_of_lt hquiet hlt, othersAlone, othersAlone]
      · rw [tick_of_le hquiet (Nat.not_lt.mp hlt), hflush]
        rfl
  | flush =>
    rw [Autosave.meet, act, hflush]
    exact ⟨hteam, rfl⟩
  | elsewhere other others code => exact ⟨hteam, rfl⟩

/-- Without a team nothing is saved all along. -/
theorem meetAll_of_teamless {a : Autosave} (hteam : a.team = none) (shelf : Shelf)
    (history : List Deed) :
    (a.meetAll shelf history).shelf = othersAlone shelf history := by
  induction history generalizing a shelf with
  | nil => rfl
  | cons deed rest ih =>
    obtain ⟨hnext, hstate⟩ := meet_of_teamless hteam shelf deed
    rw [Autosave.meetAll, ← List.singleton_append, othersAlone_append, ← hstate]
    exact ih hnext _

/-- Who gets an answer to a deed gets the one of a clock that goes on for ever. -/
theorem meet_of_meet? {a : Autosave} {shelf : Shelf} {deed : Deed} {o : Outcome Shelf}
    (h : a.meet? shelf deed = some o) : a.meet shelf deed = o := by
  cases deed with
  | tick elapsed => exact (tick?_eq_some_iff.mp h).2
  | _ => exact Option.some.inj h

theorem meetAll_of_meetAll? {a : Autosave} {shelf : Shelf} {history : List Deed} {now : Ledger}
    (h : a.meetAll? shelf history = some now) : a.meetAll shelf history = now := by
  induction history generalizing a shelf now with
  | nil => exact Option.some.inj h
  | cons deed rest ih =>
    obtain ⟨next, hnext, hrest⟩ := Option.bind_eq_some_iff.mp h
    obtain ⟨later, hlater, rfl⟩ := Option.map_eq_some_iff.mp hrest
    rw [Autosave.meetAll, meet_of_meet? hnext, ih hlater]

/-- A deed leaves the window of an autosave as it is, and the autosave waits no longer
than that. -/
theorem Waits.meet {a : Autosave} (h : a.Waits) (shelf : Shelf) (deed : Deed) :
    (a.meet shelf deed).autosave.Waits ∧
      (a.meet shelf deed).autosave.debounce = a.debounce := by
  cases deed with
  | elsewhere puzzle team code => exact ⟨h, rfl⟩
  | edit code => exact ⟨h.act shelf (.edit code), (act_alike a shelf (.edit code)).debounce⟩
  | tick elapsed =>
    exact ⟨h.act shelf (.tick .inMemory elapsed),
      (act_alike a shelf (.tick .inMemory elapsed)).debounce⟩
  | flush => exact ⟨h.act shelf (.flush .inMemory), (act_alike a shelf (.flush .inMemory)).debounce⟩

/-- A history is answered unless one of its ticks comes within the window of all that a
clock counts. -/
theorem exists_tick_of_overrun {a : Autosave} (h : a.Waits) {shelf : Shelf}
    {history : List Deed} (hnone : a.meetAll? shelf history = none) :
    ∃ elapsed, .tick elapsed ∈ history ∧
      Span.longest.nanos < a.debounce.nanos + elapsed.nanos := by
  induction history generalizing a shelf with
  | nil => cases hnone
  | cons deed rest ih =>
    cases hdeed : a.meet? shelf deed with
    | none =>
      cases deed with
      | tick elapsed =>
        exact ⟨elapsed, List.mem_cons_self, h.lt_of_overruns (tick?_eq_none_iff.mp hdeed)⟩
      | _ => cases hdeed
    | some next =>
      obtain ⟨hwaits, hdebounce⟩ := h.meet shelf deed
      rw [meet_of_meet? hdeed] at hwaits hdebounce
      rw [Autosave.meetAll?, hdeed, Option.bind_some, Option.map_eq_none_iff] at hnone
      obtain ⟨elapsed, hmem, hlong⟩ := ih hwaits hnone
      exact ⟨elapsed, List.mem_cons_of_mem _ hmem, hdebounce ▸ hlong⟩

/-- What an autosave of a team does at some moment of a history. -/
structure Debounces (team puzzle : String) (window : Span) (history : List Deed)
    (now : Ledger) : Prop where
  /-- Its script is unsaved exactly if the shelf holds another one, or none. -/
  dirty : now.autosave.isDirty = true ↔
    (now.shelf.get? (team, puzzle)).map (·.code) ≠ some now.autosave.buffer
  /-- A flush settles, and it saves an unsaved script. -/
  flush : Settles team puzzle now.autosave now.shelf (now.autosave.flush .inMemory now.shelf) ∧
    ((now.autosave.flush .inMemory now.shelf).result = .ok true ↔ now.autosave.isDirty = true)
  /-- A tick is not answered exactly if all time since the last edit is more than a clock
  counts, as long as that was followed by no flush and by no tick that reached the
  window. -/
  overrun : ∀ elapsed, now.autosave.tick? .inMemory elapsed now.shelf = none ↔
    ∃ time, Rests window history time ∧ Span.longest.nanos < time.nanos + elapsed.nanos
  /-- A tick that is answered settles, and it saves an unsaved script exactly if the last
  edit is followed by no flush and this is the first tick after it that reaches the
  window. -/
  tick : ∀ elapsed o, now.autosave.tick? .inMemory elapsed now.shelf = some o →
    Settles team puzzle now.autosave now.shelf o ∧
      (o.result = .ok true ↔
        (∃ time, Rests window history time ∧ window.nanos ≤ time.nanos + elapsed.nanos) ∧
          now.autosave.isDirty = true)

theorem InStep.debounces (h : InStep team puzzle window first history now) :
    Debounces team puzzle window history now where
  dirty := h.tracks.isDirty_iff
  flush := h.tracks.settles_flush
  overrun elapsed := by
    simp only [tick?_eq_none_iff, ← h.quiet]
    rfl
  tick elapsed o ho := by
    obtain ⟨-, rfl⟩ := tick?_eq_some_iff.mp ho
    rw [← h.isDue_iff]
    exact h.tracks.settles_tick elapsed

/-- An autosave of a team knows all along what its shelf holds, and when it saves. It is
opened at any shelf and lives through any history in which nobody else saves under its
key, as far as that is answered. At every moment it is in step with the shelf, and it
saves by flushes and ticks as it should. No script is saved twice in a row, and under
other keys the shelf is as others left it. Without a team it is so under all keys. A
history is answered unless one of its ticks comes within the window of all that a clock
counts. -/
theorem meetAll_inStep (shelf : Shelf) (puzzle : String) (config : AutosaveConfig) :
    (∀ team, ∃ a, start .inMemory shelf puzzle (some team) config = .ok a ∧
      ∀ history : List Deed, (∀ deed ∈ history, deed.Spares (team, puzzle)) →
        (∀ now, a.meetAll? shelf history = some now →
          InStep team puzzle config.debounceSpan shelf history now ∧
            Debounces team puzzle config.debounceSpan history now) ∧
        (a.meetAll? shelf history = none → ∃ elapsed, .tick elapsed ∈ history ∧
          Span.longest.nanos < config.debounceSpan.nanos + elapsed.nanos)) ∧
    ∃ a, start .inMemory shelf puzzle none config = .ok a ∧
      ∀ history : List Deed,
        (∀ now, a.meetAll? shelf history = some now → now.shelf = othersAlone shelf history) ∧
        (a.meetAll? shelf history = none → ∃ elapsed, .tick elapsed ∈ history ∧
          Span.longest.nanos < config.debounceSpan.nanos + elapsed.nanos) := by
  constructor
  · intro team
    obtain ⟨a, hstart, hdebounce, hquiet, -, htracks⟩ :=
      exists_start shelf puzzle (some team) config
    refine ⟨a, hstart, fun history hspares => ⟨fun now hnow => ?_, fun hnone => ?_⟩⟩
    · obtain rfl := meetAll_of_meetAll? hnow
      have hstep : InStep team puzzle config.debounceSpan shelf history (a.meetAll shelf history) :=
        hdebounce ▸ InStep.meetAll (htracks team rfl) hquiet hspares
      exact ⟨hstep, hstep.debounces⟩
    · exact hdebounce ▸ exists_tick_of_overrun (waits_of_none hquiet) hnone
  · obtain ⟨a, hstart, hdebounce, hquiet, hteam, -⟩ := exists_start shelf puzzle none config
    refine ⟨a, hstart, fun history => ⟨fun now hnow => ?_, fun hnone => ?_⟩⟩
    · rw [← meetAll_of_meetAll? hnow]
      exact meetAll_of_teamless hteam shelf history
    · exact hdebounce ▸ exists_tick_of_overrun (waits_of_none hquiet) hnone

/-- An edit that rests, while another team saves. -/
def resting : List Deed :=
  [.edit "move()", .tick (.ofMillis 1500), .elsewhere "first-steps" "blue" "turn_left()"]

/-- The tick that ends the window of the edit saves, and the one before it did not. A
tick of all that a clock counts is not answered there. -/
theorem meetAll_inStep_resting :
    ∃ a now, start .inMemory .empty "first-steps" (some "red") {} = .ok a ∧
      (∀ deed ∈ resting, deed.Spares ("red", "first-steps")) ∧
      a.meetAll? .empty resting = some now ∧ now.scripts = [] ∧
      (∃ o, now.autosave.tick? .inMemory (.ofMillis 500) now.shelf = some o ∧
        o.result = .ok true) ∧
      now.autosave.tick? .inMemory Span.longest now.shelf = none := by
  obtain ⟨a, hstart, hall⟩ := (meetAll_inStep .empty "first-steps" {}).1 "red"
  have hspares : ∀ deed ∈ resting, deed.Spares ("red", "first-steps") := by
    simp [resting, Deed.Spares]
  obtain rfl := Except.ok.inj hstart
  obtain ⟨-, hdebounces⟩ := (hall resting hspares).1 _ rfl
  -- The edit comes first, and one tick since then is 500 ms short of the window.
  have hrests : Rests ({} : AutosaveConfig).debounceSpan resting (.ofMillis 1500) := by
    refine ⟨[], "move()", resting.tail, rfl, by decide, ?_, rfl⟩
    refine (early_append_elsewhere [.tick (.ofMillis 1500)]).mpr ?_
    exact (early_append_tick []).mpr ⟨early_nil, by decide⟩
  refine ⟨_, _, rfl, hspares, rfl, by decide, ⟨_, rfl, ?_⟩, ?_⟩
  · exact (hdebounces.tick (.ofMillis 500) _ rfl).2.mpr ⟨⟨_, hrests, by decide⟩, by decide⟩
  · exact (hdebounces.overrun Span.longest).mpr ⟨_, hrests, by decide⟩

end Histories

end Autosave

end MazeRobot

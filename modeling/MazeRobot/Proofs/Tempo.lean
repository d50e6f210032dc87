import Mathlib.Data.List.Induction
import MazeRobot.Proofs.Mirror
import MazeRobot.Proofs.Performance

/-!
# How many records an advance applies

While a playback is playing, an advance has a closed form: the time since the
latest record and the time that goes by are divided by the delay. The quotient
is how many records are applied, the remainder is what the playback waits for
from there on, and where there are too few records it comes to its natural end.
So a wait that is shorter than the delay brings at most one record more than
the time that goes by is worth. Every operation but one leaves such a wait:
only a delay that is changed in the middle of it can overtake it.
-/

namespace MazeRobot.Playback

/-- What comes of a playback that is playing when so many nanoseconds lie
behind its latest record. -/
def lapse (p : Playback) (time : Nat) : Change :=
  if time / p.delay.nanos ≤ p.remaining then
    applyMany (time / p.delay.nanos) (p.waiting ⟨time % p.delay.nanos⟩)
  else (applyMany p.remaining p).andThen finish

/-- An advance of a playback that is playing in closed form. -/
theorem advance_eq_lapse {p : Playback} (playing : p.state = .playing)
    (off : p.celebrationLeft = none) (positive : 0 < p.delay.nanos) (elapsed : Span) :
    p.advance elapsed = p.lapse (p.waited.nanos + elapsed.nanos) := by
  rw [lapse]
  split
  · next hle =>
    exact advance_of_le playing off (Nat.mod_lt _ positive) (Nat.div_add_mod' _ _).symm hle
  · next hgt =>
    exact advance_of_gt playing off ((Nat.le_div_iff_mul_le positive).mp (Nat.not_le.mp hgt))

/-! ### What holds of all playbacks -/

/-- What operations keep of a playback of a report. -/
structure Reached (report : Report) (p : Playback) : Prop extends Faithful report p where
  /-- There is always some time between two records. -/
  positive : 0 < p.delay.nanos

/-- Only an operation on the delay changes it, and it leaves some. -/
theorem Shift.delay_pos {op : Operation} {p : Playback} {c : Change} (hc : Shift op p c)
    (h : 0 < p.delay.nanos) : 0 < c.1.delay.nanos := by
  cases hc with
  | delay clamped =>
    rw [clamped]
    exact delayFor_pos _ _
  | finish playing all =>
    obtain ⟨left, view, hend⟩ := celebrate_eq p.ended
    rw [hend, ended_eq]
    exact h
  | rewind held off =>
    rw [moveTo_eq]
    exact h
  | _ => exact h

namespace Reached

variable {report : Report} {p : Playback}

/-- Before its end, a playback does not celebrate. -/
theorem off (h : Reached report p) (hs : p.state ≠ .finished) : p.celebrationLeft = none :=
  h.toFaithful.celebrationLeft_of_state hs

theorem off_of_playing (h : Reached report p) (playing : p.state = .playing) :
    p.celebrationLeft = none :=
  h.off (playing.trans_ne State.noConfusion)

/-- The cursor and the records that are left make up the trace. -/
theorem cursor_add_remaining (h : Reached report p) : p.cursor + p.remaining = p.length := by
  have hle := h.cursor_le
  rw [remaining, length, h.shown]
  omega

/-- Operations keep what holds of all playbacks. -/
theorem performAll (h : Reached report p) (ops : List Operation) :
    Reached report (performAll ops p).1 :=
  performAll_keep (P := fun _ q => Reached report q)
    (fun hc hq => ⟨hc.faithful hq.toFaithful, hc.delay_pos hq.positive⟩) [] h ops

end Reached

/-- What holds of all playbacks holds after any operations. -/
theorem reached_performAll (report : Report) (config : PlaybackConfig) (taken : Bool)
    (ops : List Operation) : Reached report (performAll ops (ofReport report config taken)).1 :=
  Reached.performAll ⟨faithful_ofReport report config taken, delayFor_pos _ _⟩ ops

/-- What an advance leaves of a playback that is playing: the records that are
due were applied and the rest of the time is waited for, or it has finished
behind the last record. -/
theorem advance_cases {report : Report} {p : Playback} (h : Reached report p)
    (playing : p.state = .playing) (elapsed : Span) :
    ((p.waited.nanos + elapsed.nanos) / p.delay.nanos ≤ p.remaining ∧
        ∃ view, (p.advance elapsed).1 = { p with
          cursor := p.cursor + (p.waited.nanos + elapsed.nanos) / p.delay.nanos
          view := view
          waited := ⟨(p.waited.nanos + elapsed.nanos) % p.delay.nanos⟩ }) ∨
      (p.remaining < (p.waited.nanos + elapsed.nanos) / p.delay.nanos ∧
        ∃ left view sink, (p.advance elapsed).1 = { p with
          cursor := p.length
          view := view
          waited := .zero
          state := .finished
          submitted := true
          sink := sink
          celebrationLeft := left }) := by
  have hall := h.cursor_add_remaining
  rw [advance_eq_lapse playing (h.off_of_playing playing) h.positive, lapse]
  split
  · next hle =>
    obtain ⟨view, hview⟩ := applyMany_eq (p := p)
      (Nat.le_trans (Nat.add_le_add_left hle _) (Nat.le_of_eq hall))
    refine .inl ⟨hle, view, ?_⟩
    rw [applyMany_waiting, hview]
    rfl
  · next hgt =>
    obtain ⟨view, hview⟩ := applyMany_eq (Nat.le_of_eq hall)
    obtain ⟨left, shown, hfinish⟩ := finish_eq
      (p := { p with cursor := p.cursor + p.remaining, view := view }) playing
    rw [Change.andThen_eq, hview, hfinish]
    dsimp only
    rw [hall]
    exact .inr ⟨Nat.not_le.mp hgt, left, shown, _, rfl⟩

/-! ### Records among events -/

/-- Whether an event tells of a record. -/
def Event.isRecord : Event → Bool
  | .applied _ _ => true
  | _ => false

/-- The events among some that tell of records. -/
def records (events : List Event) : List Event :=
  events.filter Event.isRecord

theorem records_append (earlier later : List Event) :
    records (earlier ++ later) = records earlier ++ records later :=
  List.filter_append earlier later

/-- A recital consists of records. -/
theorem isRecord_recital {report : Report} {event : Event} (h : event ∈ recital report) :
    event.isRecord = true := by
  obtain ⟨index, hindex, rfl⟩ := List.mem_mapIdx.mp h
  rfl

/-- What is told of the next record comes next in the recital. -/
theorem drop_recital {report : Report} {count : Nat} {record : Record}
    (next : report.trace.get? count = some record) :
    (recital report).drop count = .applied count record :: (recital report).drop (count + 1) := by
  have hget : report.trace.toList[count]? = some record := by
    rw [Trace.toList, Array.getElem?_toList]
    exact next
  rw [List.drop_eq_getElem?_toList_append, recital, List.getElem?_mapIdx, hget]
  rfl

/-- Behind the last record, nothing is left of the recital. -/
theorem drop_recital_length (report : Report) :
    (recital report).drop report.trace.length = [] :=
  List.drop_eq_nil_of_le (Nat.le_of_eq (length_recital report))

section Records

variable {report : Report} {p : Playback}

/-- As much is left of the recital as there are records left. -/
theorem length_drop_recital (h : Reached report p) :
    ((recital report).drop p.cursor).length = p.remaining := by
  rw [List.length_drop, length_recital, remaining, length, h.shown]

/-- Applying records tells the next ones of the recital. -/
theorem events_applyMany (count : Nat) (p : Playback) :
    (applyMany count p).2 = ((recital p.report).drop p.cursor).take count := by
  induction count generalizing p with
  | zero => rfl
  | succ count ih =>
    rw [applyMany, Change.andThen_eq, ih, applyNext]
    split
    · next hnone =>
      have hend : (recital p.report).length ≤ p.cursor := by
        rw [length_recital]
        exact Array.getElem?_eq_none_iff.mp hnone
      simp only [List.drop_eq_nil_of_le hend, List.take_nil, List.append_nil]
    · next record hnext => rw [drop_recital hnext, List.take_succ_cons, List.singleton_append]

theorem records_applyMany (count : Nat) (p : Playback) :
    records (applyMany count p).2 = ((recital p.report).drop p.cursor).take count := by
  rw [events_applyMany]
  exact List.filter_eq_self.mpr fun event h =>
    isRecord_recital (List.mem_of_mem_drop (List.mem_of_mem_take h))

/-- The natural end tells of no record. -/
theorem records_finish (playing : p.state = .playing) : records p.finish.2 = [] := by
  rw [finish_of_playing playing, celebrate]
  split <;> rfl

/-- Nor does the time of a celebration. -/
theorem records_advanceCelebration (p : Playback) (elapsed : Span) :
    records (p.advanceCelebration elapsed).2 = [] := by
  unfold advanceCelebration endCelebration
  split
  · rfl
  · split
    · split <;> rfl
    · rfl

/-- What an advance tells of records: the next ones, as many as there are
delays over. -/
theorem records_advance (h : Reached report p) (elapsed : Span) :
    records (p.advance elapsed).2 =
      if p.state = .playing then
        ((recital report).drop p.cursor).take ((p.waited.nanos + elapsed.nanos) / p.delay.nanos)
      else [] := by
  split
  · next playing =>
    rw [advance_eq_lapse playing (h.off_of_playing playing) h.positive, lapse]
    split
    · rw [records_applyMany, ← h.shown]
      rfl
    · next hgt =>
      -- All records that are left are told, so it makes no difference how many are due.
      have hall := h.cursor_add_remaining
      have hlength := length_drop_recital h
      obtain ⟨view, hview⟩ := applyMany_eq (Nat.le_of_eq hall)
      have hplaying : (applyMany p.remaining p).1.state = .playing := by
        rw [hview]
        exact playing
      rw [Change.andThen_eq, records_append, records_applyMany, h.shown, records_finish hplaying,
        List.append_nil, List.take_of_length_le (Nat.le_of_eq hlength),
        List.take_of_length_le (by omega)]
  · next hs =>
    rw [advance_of_not_playing hs, records_advanceCelebration]

/-- How many records an advance applies. -/
theorem length_records_advance (h : Reached report p) (elapsed : Span) :
    (records (p.advance elapsed).2).length =
      if p.state = .playing then
        min ((p.waited.nanos + elapsed.nanos) / p.delay.nanos) p.remaining
      else 0 := by
  rw [records_advance h]
  split
  · rw [List.length_take, length_drop_recital h]
  · rfl

end Records

/-! ### Waits -/

/-- A change that keeps the pace: the delay stays as it is, and the time since
the latest record is counted on or counted anew. -/
def KeepsPace (p : Playback) (c : Change) : Prop :=
  c.1.delay = p.delay ∧ (c.1.waited = p.waited ∨ c.1.waited = .zero)

namespace KeepsPace

variable {p : Playback} {c : Change}

theorem refl (p : Playback) : KeepsPace p (p, []) :=
  ⟨rfl, .inl rfl⟩

/-- What keeps the pace may be followed by what keeps it. -/
theorem andThen {f : Playback → Change} (h : KeepsPace p c) (hf : KeepsPace c.1 (f c.1)) :
    KeepsPace p (c.andThen f) := by
  refine ⟨hf.1.trans h.1, ?_⟩
  rcases hf.2 with hf | hf
  · exact h.2.imp hf.trans hf.trans
  · exact .inr hf

/-- A wait that is shorter than the delay stays so. -/
theorem waited_lt (h : KeepsPace p c) (positive : 0 < p.delay.nanos)
    (hlt : p.waited.nanos < p.delay.nanos) : c.1.waited.nanos < c.1.delay.nanos := by
  rw [h.1]
  rcases h.2 with hw | hw
  · rwa [hw]
  · rwa [hw]

end KeepsPace

section Pace

variable (p : Playback)

theorem keepsPace_moveTo (after : State) : KeepsPace p (p.moveTo after) := by
  rw [KeepsPace, moveTo_eq]
  exact ⟨rfl, .inl rfl⟩

theorem keepsPace_applyNext : KeepsPace p p.applyNext := by
  obtain ⟨cursor, view, h⟩ := p.applyNext_eq
  rw [KeepsPace, h]
  exact ⟨rfl, .inl rfl⟩

theorem keepsPace_endCelebration : KeepsPace p p.endCelebration := by
  obtain ⟨view, events, h⟩ := endCelebration_eq p
  rw [KeepsPace, h]
  exact ⟨rfl, .inl rfl⟩

theorem keepsPace_cancel : KeepsPace p p.cancel := by
  unfold cancel
  split
  · exact p.keepsPace_endCelebration
  · exact p.keepsPace_endCelebration
  · exact p.keepsPace_moveTo _

variable {p} {c : Change}

theorem keepsPace_play (h : p.play = some c) : KeepsPace p c := by
  unfold play at h
  split at h
  · obtain rfl := Option.some.inj h
    refine (p.keepsPace_moveTo _).andThen ?_
    obtain ⟨cursor, view, hnext⟩ := applyNext_eq { (p.moveTo .playing).1 with waited := .zero }
    rw [KeepsPace, hnext]
    exact ⟨rfl, .inr rfl⟩
  · cases h

theorem keepsPace_of_state {before after : State}
    (h : (if p.state = before then some (p.moveTo after) else none) = some c) :
    KeepsPace p c := by
  split at h
  · obtain rfl := Option.some.inj h
    exact p.keepsPace_moveTo after
  · cases h

theorem keepsPace_toggle (h : p.toggle = some c) : KeepsPace p c := by
  unfold toggle at h
  split at h
  · exact keepsPace_of_state h
  · exact keepsPace_of_state h
  · cases h

theorem keepsPace_step (h : p.step = some c) : KeepsPace p c := by
  unfold step at h
  split at h
  · obtain rfl := Option.some.inj h
    exact ⟨p.keepsPace_applyNext.1, .inr rfl⟩
  · cases h

theorem keepsPace_rewind (h : p.rewind = some c) : KeepsPace p c := by
  unfold rewind at h
  split at h
  · cases h
  · obtain rfl := Option.some.inj h
    have hback : KeepsPace p.endCelebration.1 (p.endCelebration.1.toStart.moveTo .idle) := by
      rw [KeepsPace, moveTo_eq]
      exact ⟨rfl, .inr rfl⟩
    exact (p.keepsPace_endCelebration.andThen hback).andThen (.refl _)

/-- Operations keep the pace, but for time that goes by and a change of the
delay. -/
theorem keepsPace_attempt {op : Operation} (h : p.attempt op = some c)
    (hadvance : ∀ elapsed, op ≠ .advance elapsed) (hdelay : ∀ wanted, op ≠ .setDelay wanted) :
    KeepsPace p c := by
  cases op with
  | play => exact keepsPace_play h
  | pause => exact keepsPace_of_state h
  | resume => exact keepsPace_of_state h
  | toggle => exact keepsPace_toggle h
  | step => exact keepsPace_step h
  | setDelay wanted => exact absurd rfl (hdelay wanted)
  | advance elapsed => exact absurd rfl (hadvance elapsed)
  | cancel =>
    obtain rfl := Option.some.inj h
    exact p.keepsPace_cancel
  | reset =>
    obtain rfl := Option.some.inj h
    exact (p.keepsPace_cancel.andThen (keepsPace_endCelebration _)).andThen ⟨rfl, .inr rfl⟩
  | rewind => exact keepsPace_rewind h

end Pace

section Waits

variable {report : Report} {p : Playback}

/-- An advance leaves a wait that is shorter than the delay. -/
theorem waited_lt_advance (h : Reached report p) (playing : p.state = .playing) (elapsed : Span) :
    (p.advance elapsed).1.waited.nanos < (p.advance elapsed).1.delay.nanos := by
  rcases advance_cases h playing elapsed with ⟨_, view, hc⟩ | ⟨_, left, view, sink, hc⟩
  · rw [hc]
    exact Nat.mod_lt _ h.positive
  · rw [hc]
    exact h.positive

/-- Every operation but a change of the delay leaves a wait that is shorter
than the delay, if it was so before. -/
theorem waited_lt_perform (h : Reached report p) (hlt : p.waited.nanos < p.delay.nanos)
    {op : Operation} (hop : ∀ wanted, op ≠ .setDelay wanted) :
    (p.perform op).1.waited.nanos < (p.perform op).1.delay.nanos := by
  by_cases hadvance : ∃ elapsed, op = .advance elapsed
  · obtain ⟨elapsed, rfl⟩ := hadvance
    change (p.advance elapsed).1.waited.nanos < (p.advance elapsed).1.delay.nanos
    by_cases playing : p.state = .playing
    · exact waited_lt_advance h playing elapsed
    · obtain ⟨left, view, hc⟩ := p.advanceCelebration_eq elapsed
      rw [advance_of_not_playing playing, hc]
      exact hlt
  · rw [perform]
    cases hattempt : p.attempt op with
    | none => exact hlt
    | some c =>
      exact (keepsPace_attempt hattempt (fun elapsed he => hadvance ⟨elapsed, he⟩) hop).waited_lt
        h.positive hlt

end Waits

/-- A change of the delay leaves all the rest as it is. -/
theorem setDelay_eq (p : Playback) (wanted : Span) :
    ∃ delay, p.setDelay wanted = ({ p with delay := delay }, [.delayChanged delay.millis]) :=
  ⟨_, rfl⟩

/-- Whether a wait was overtaken by a change of the delay among operations on a
playback: some change left a delay no longer than the time since the latest
record. -/
def Overtaken (ops : List Operation) (p : Playback) : Prop :=
  ∃ before wanted after, ops = before ++ .setDelay wanted :: after ∧
    ((performAll before p).1.setDelay wanted).1.delay.nanos ≤ (performAll before p).1.waited.nanos

theorem Overtaken.append {ops : List Operation} {p : Playback} (h : Overtaken ops p)
    (more : List Operation) : Overtaken (ops ++ more) p := by
  obtain ⟨before, wanted, after, rfl, hle⟩ := h
  exact ⟨before, wanted, after ++ more, by rw [List.append_assoc, List.cons_append], hle⟩

/-- A wait that reaches the delay was overtaken by a change of it. -/
theorem overtaken_of_le {report : Report} {p : Playback} (h : Reached report p)
    (hlt : p.waited.nanos < p.delay.nanos) {ops : List Operation}
    (hle : (performAll ops p).1.delay.nanos ≤ (performAll ops p).1.waited.nanos) :
    Overtaken ops p := by
  induction ops using List.reverseRecOn with
  | nil => exact absurd hlt (Nat.not_lt.mpr hle)
  | append_singleton ops op ih =>
    have hlast : (performAll (ops ++ [op]) p).1 = ((performAll ops p).1.perform op).1 := by
      rw [performAll_append]
      rfl
    rw [hlast] at hle
    rcases Nat.lt_or_ge (performAll ops p).1.waited.nanos (performAll ops p).1.delay.nanos with
      hearlier | hearlier
    · by_cases hop : ∃ wanted, op = .setDelay wanted
      · obtain ⟨wanted, rfl⟩ := hop
        obtain ⟨delay, hset⟩ := setDelay_eq (performAll ops p).1 wanted
        have hperform : (performAll ops p).1.perform (.setDelay wanted) =
            (performAll ops p).1.setDelay wanted := rfl
        rw [hperform, hset] at hle
        refine ⟨ops, wanted, [], rfl, ?_⟩
        rw [hset]
        exact hle
      · have hkept := waited_lt_perform (h.performAll ops) hearlier fun wanted he =>
          hop ⟨wanted, he⟩
        exact absurd hkept (Nat.not_lt.mpr hle)
    · exact (ih hearlier).append [op]

/-- Delays that are over, with a wait that is no longer than one of them. -/
theorem add_div_le_succ {waited elapsed delay : Nat} (positive : 0 < delay) (h : waited ≤ delay) :
    (waited + elapsed) / delay ≤ 1 + elapsed / delay := by
  calc (waited + elapsed) / delay
      ≤ (delay + elapsed) / delay := Nat.div_le_div_right (Nat.add_le_add_right h _)
    _ = 1 + elapsed / delay := by rw [Nat.add_div_left _ positive, Nat.add_comm]

/-- With a wait that is longer than the delay, two records can come in less
than a delay. -/
theorem two_le_add_div (waited : Nat) {delay : Nat} (positive : 0 < delay) :
    2 ≤ (waited + (2 * delay - waited)) / delay :=
  (Nat.le_div_iff_mul_le positive).mpr (by omega)

/-- Whatever was done with a playback, an advance applies at most one record
more than the time that goes by is worth, but for one case: the playback is
playing, it waits for longer than its delay already, and there are two records
left. A wait comes to reach its delay by nothing else than a change of the
delay in the middle of it. -/
theorem performAll_advance_rate_iff (report : Report) (config : PlaybackConfig) (taken : Bool)
    (ops : List Operation) :
    let fresh := ofReport report config taken
    let p := (performAll ops fresh).1
    ((∀ elapsed, (records (p.advance elapsed).2).length ≤ 1 + elapsed.nanos / p.delay.nanos) ↔
        ¬(p.state = .playing ∧ p.delay.nanos < p.waited.nanos ∧ 2 ≤ p.remaining)) ∧
      (p.delay.nanos ≤ p.waited.nanos → Overtaken ops fresh) := by
  intro fresh p
  have hp : Reached report p := reached_performAll report config taken ops
  refine ⟨⟨?_, ?_⟩, ?_⟩
  · rintro hall ⟨playing, hlong, htwo⟩
    have hpositive := hp.positive
    have hrate := hall ⟨2 * p.delay.nanos - p.waited.nanos⟩
    have hdue := two_le_add_div p.waited.nanos hpositive
    have hshort : (2 * p.delay.nanos - p.waited.nanos) / p.delay.nanos = 0 :=
      Nat.div_eq_of_lt (by omega)
    rw [length_records_advance hp, if_pos playing] at hrate
    dsimp only at hrate
    omega
  · intro hcase elapsed
    rw [length_records_advance hp]
    split
    · next playing =>
      rcases Nat.lt_or_ge p.delay.nanos p.waited.nanos with hlong | hshort
      · have hone : ¬2 ≤ p.remaining := fun htwo => hcase ⟨playing, hlong, htwo⟩
        exact Nat.le_trans (Nat.min_le_right _ _)
          (Nat.le_add_right_of_le (Nat.le_of_lt_succ (Nat.not_le.mp hone)))
      · exact Nat.le_trans (Nat.min_le_left _ _) (add_div_le_succ hp.positive hshort)
    · exact Nat.zero_le _
  · have hfresh : Reached report fresh := reached_performAll report config taken []
    exact overtaken_of_le hfresh hfresh.positive

/-- A stroll whose delay is lowered to a third of what it waited for already. -/
def hurried : Playback :=
  (performAll [.play, .advance (.ofMillis 149), .setDelay (.ofMillis 50)]
    (ofReport stroll {} true)).1

/-- Two records come at once, in no time at all. -/
theorem advance_rate_hurried :
    hurried.delay = .ofMillis 50 ∧ (records (hurried.advance .zero).2).length = 2 ∧
      ¬(records (hurried.advance .zero).2).length ≤
        1 + Span.zero.nanos / hurried.delay.nanos := by
  have hdelay : hurried.delay = .ofMillis 50 := by decide +kernel
  have htwo : (records (hurried.advance .zero).2).length = 2 := by decide +kernel
  refine ⟨hdelay, htwo, ?_⟩
  rw [htwo, hdelay]
  decide

end MazeRobot.Playback

import Mathlib.Algebra.GroupWithZero.Nat
import MazeRobot.Playback.Overrun
import MazeRobot.Proofs.Tempo

/-!
# When a clock overruns

A clock overruns only while a playback is playing, and then at the time that goes by at
once. What was waited for before is never more than the longest delay, so the time that
goes by must come close to the longest span there is. As long as no clock overruns,
everything is as if it went on for ever.
-/

namespace MazeRobot.Playback

/-- The longest delay that there can be. -/
def longestDelay : Span := .ofMillis 18446744073709551615

variable {p : Playback} {elapsed : Span} {op : Operation} {c : Change}

/-- Time can go by unless the clock overruns, and it does so while the playback is
playing. -/
theorem advance?_eq (p : Playback) (elapsed : Span) :
    p.advance? elapsed =
      if p.state = .playing ∧ Span.longest.nanos < p.waited.nanos + elapsed.nanos then none
      else some (p.advance elapsed) := by
  obtain ⟨left, view, hc⟩ := p.advanceCelebration_eq elapsed
  have hstate : (p.advanceCelebration elapsed).1.state = p.state := by rw [hc]
  have hwaited : (p.advanceCelebration elapsed).1.waited = p.waited := by rw [hc]
  by_cases playing : p.state = .playing
  · simp only [advance?, hstate, hwaited, playing, if_true, true_and]
    rcases Nat.lt_or_ge Span.longest.nanos (p.waited.nanos + elapsed.nanos) with beyond | within
    · rw [if_pos beyond, (Span.add?_eq_none_iff _ _).mpr beyond, Option.map_none]
    · rw [if_neg (Nat.not_lt.mpr within), Span.add?_of_le within, Option.map_some, advance]
      simp only [Change.andThen_eq, hstate, hwaited, playing, if_true]
  · simp only [advance?, hstate, playing, if_false, false_and]
    rw [advance_of_not_playing playing]

theorem advance?_of_le (h : p.waited.nanos + elapsed.nanos ≤ Span.longest.nanos) :
    p.advance? elapsed = some (p.advance elapsed) := by
  rw [advance?_eq]
  exact if_neg fun beyond => Nat.not_lt.mpr h beyond.2

theorem advance?_of_not_playing (h : p.state ≠ .playing) :
    p.advance? elapsed = some (p.advance elapsed) := by
  rw [advance?_eq]
  exact if_neg fun beyond => h beyond.1

/-- Who gets an answer gets the one of a clock that goes on for ever. -/
theorem perform_of_perform? (h : p.perform? op = some c) : p.perform op = c := by
  cases op with
  | advance elapsed =>
    rw [perform?, advance?_eq] at h
    split at h
    · cases h
    · exact Option.some.inj h
  | _ => exact Option.some.inj h

theorem performAll_of_performAll? {ops : List Operation} (h : performAll? ops p = some c) :
    performAll ops p = c := by
  induction ops generalizing p c with
  | nil => exact Option.some.inj h
  | cons op rest ih =>
    obtain ⟨first, hfirst, hrest⟩ := Option.bind_eq_some_iff.mp h
    obtain ⟨later, hlater, rfl⟩ := Option.map_eq_some_iff.mp hrest
    rw [performAll, perform_of_perform? hfirst, Change.andThen_eq, ih hlater]

/-- Time that goes by while nothing is played, or that does not add up to more than a
clock counts, is answered. -/
theorem exists_performAll?_advances {report : Report} (h : Reached report p) {spans : List Span}
    (hsum : p.state = .playing → p.waited.nanos + (spans.map Span.nanos).sum ≤ Span.longest.nanos) :
    ∃ c, performAll? (spans.map .advance) p = some c := by
  induction spans generalizing p with
  | nil => exact ⟨_, rfl⟩
  | cons elapsed rest ih =>
    have hreached : Reached report (p.advance elapsed).1 := h.performAll [.advance elapsed]
    have hone : p.advance? elapsed = some (p.advance elapsed) := by
      by_cases playing : p.state = .playing
      · have hall := hsum playing
        rw [List.map_cons, List.sum_cons] at hall
        exact advance?_of_le (by omega)
      · exact advance?_of_not_playing playing
    have hleft : (p.advance elapsed).1.state = .playing →
        (p.advance elapsed).1.waited.nanos + (rest.map Span.nanos).sum ≤ Span.longest.nanos := by
      intro still
      have playing : p.state = .playing := by
        by_contra hs
        obtain ⟨left, view, hc⟩ := p.advanceCelebration_eq elapsed
        rw [advance_of_not_playing hs, hc] at still
        exact hs still
      have hall := hsum playing
      rw [List.map_cons, List.sum_cons] at hall
      have hkept : (p.advance elapsed).1.waited.nanos ≤ p.waited.nanos + elapsed.nanos := by
        rcases advance_cases h playing elapsed with ⟨_, view, hc⟩ | ⟨_, left, view, sink, hc⟩
        · rw [hc]
          exact Nat.mod_le _ _
        · rw [hc]
          exact Nat.zero_le _
      omega
    obtain ⟨later, hlater⟩ := ih hreached hleft
    exact ⟨_, by rw [List.map_cons, performAll?, perform?, hone, Option.bind_some, hlater]; rfl⟩

/-! ### What is waited for -/

/-- No delay is longer than the longest. -/
theorem delayFor_le (config : PlaybackConfig) (millis : UInt64) :
    (delayFor config millis).nanos ≤ longestDelay.nanos := by
  have hclamp : (config.clampDelay millis).nanos ≤ longestDelay.nanos :=
    Nat.mul_le_mul_right _ (Nat.le_of_lt_succ (UInt64.toNat_lt _))
  have hleast : leastDelay.nanos ≤ longestDelay.nanos := by decide
  rw [delayFor, Span.max]
  exact Nat.max_le.mpr ⟨hclamp, hleast⟩

/-- A playback of which the delay and what is waited for are no longer than the longest
delay. -/
structure Patient (p : Playback) : Prop where
  /-- The delay. -/
  delay : p.delay.nanos ≤ longestDelay.nanos
  /-- What is waited for. -/
  waited : p.waited.nanos ≤ longestDelay.nanos

/-- What keeps the pace keeps that. -/
theorem KeepsPace.patient (h : KeepsPace p c) (hp : Patient p) : Patient c.1 := by
  refine ⟨h.1 ▸ hp.delay, ?_⟩
  rcases h.2 with hw | hw
  · exact hw ▸ hp.waited
  · rw [hw]
    exact Nat.zero_le _

/-- All operations keep it. -/
theorem Patient.perform {report : Report} (h : Reached report p) (hp : Patient p)
    (op : Operation) : Patient (p.perform op).1 := by
  by_cases hdelay : ∃ wanted, op = .setDelay wanted
  · obtain ⟨wanted, rfl⟩ := hdelay
    have hset : (p.setDelay wanted).1 = { p with delay := delayFor p.config wanted.millisWord } :=
      rfl
    change Patient (p.setDelay wanted).1
    rw [hset]
    exact ⟨delayFor_le _ _, hp.waited⟩
  by_cases hadvance : ∃ elapsed, op = .advance elapsed
  · obtain ⟨elapsed, rfl⟩ := hadvance
    change Patient (p.advance elapsed).1
    by_cases playing : p.state = .playing
    · have hshort := waited_lt_advance h playing elapsed
      have hsame : (p.advance elapsed).1.delay = p.delay := by
        rcases advance_cases h playing elapsed with ⟨_, view, hc⟩ | ⟨_, left, view, sink, hc⟩
        · rw [hc]
        · rw [hc]
      rw [hsame] at hshort
      exact ⟨hsame ▸ hp.delay, Nat.le_trans (Nat.le_of_lt hshort) hp.delay⟩
    · obtain ⟨left, view, hc⟩ := p.advanceCelebration_eq elapsed
      rw [advance_of_not_playing playing, hc]
      exact ⟨hp.delay, hp.waited⟩
  · rw [Playback.perform]
    cases hattempt : p.attempt op with
    | none => exact hp
    | some c =>
      exact (keepsPace_attempt hattempt (fun elapsed he => hadvance ⟨elapsed, he⟩)
        fun wanted hw => hdelay ⟨wanted, hw⟩).patient hp

theorem Patient.performAll {report : Report} (h : Reached report p) (hp : Patient p)
    (ops : List Operation) : Patient (performAll ops p).1 := by
  induction ops generalizing p with
  | nil => exact hp
  | cons op rest ih => exact ih (h.performAll [op]) (hp.perform h op)

/-- A playback is patient from the first. -/
theorem patient_ofReport (report : Report) (config : PlaybackConfig) (taken : Bool) :
    Patient (ofReport report config taken) :=
  ⟨delayFor_le _ _, Nat.zero_le _⟩

/-- A clock overruns only at a time that comes within the longest delay of all that a
clock counts. -/
theorem exists_advance_of_overrun {report : Report} (h : Reached report p) (hp : Patient p)
    {ops : List Operation} (hnone : performAll? ops p = none) :
    ∃ elapsed, .advance elapsed ∈ ops ∧
      Span.longest.nanos < longestDelay.nanos + elapsed.nanos := by
  induction ops generalizing p with
  | nil => cases hnone
  | cons op rest ih =>
    cases hop : p.perform? op with
    | none =>
      cases op with
      | advance elapsed =>
        rw [perform?, advance?_eq] at hop
        split at hop
        · next beyond =>
          exact ⟨elapsed, List.mem_cons_self,
            Nat.lt_of_lt_of_le beyond.2 (Nat.add_le_add_right hp.waited _)⟩
        · cases hop
      | _ => cases hop
    | some c =>
      have hc : (p.perform op).1 = c.1 := congrArg Prod.fst (perform_of_perform? hop)
      have hreached : Reached report c.1 := hc ▸ h.performAll [op]
      have hpatient : Patient c.1 := hc ▸ hp.perform h op
      rw [performAll?, hop, Option.bind_some, Option.map_eq_none_iff] at hnone
      obtain ⟨elapsed, hmem, hlong⟩ := ih hreached hpatient hnone
      exact ⟨elapsed, List.mem_cons_of_mem _ hmem, hlong⟩

end MazeRobot.Playback

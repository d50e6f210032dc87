import Mathlib.Algebra.GroupWithZero.Nat
import MazeRobot.Proofs.Overrun

/-!
# The rate of frames plays no part

Whoever draws a playback lets time go by frame by frame. What comes of a
playback that is playing depends on the sum of the frames alone, and not on how
it is cut into pieces: as long as there are records left, two advances are one
advance by both spans, and behind the natural end no frame does anything but
bring the celebration nearer to its end. Only the clock may tell the difference: it
may overrun in one frame and not in two, but not unless a frame is about as long as
all that a clock counts.
-/

namespace MazeRobot.Playback

/-- A playback but for its celebration. -/
def hushed (p : Playback) : Playback :=
  { p with celebrationLeft := none, view := { p.view with celebrating := false } }

/-- Events but for the end of a celebration. -/
def lasting (events : List Event) : List Event :=
  events.filter (· ≠ .celebrationEnded)

theorem lasting_append (earlier later : List Event) :
    lasting (earlier ++ later) = lasting earlier ++ lasting later :=
  List.filter_append earlier later

/-- Two changes that differ in a celebration and its end at most. -/
def Alike (c d : Change) : Prop :=
  c.1.hushed = d.1.hushed ∧ lasting c.2 = lasting d.2

/-- What follows on the same change may be alike. -/
theorem Alike.andThen {c : Change} {f g : Playback → Change} (h : Alike (f c.1) (g c.1)) :
    Alike (c.andThen f) (c.andThen g) := by
  refine ⟨h.1, ?_⟩
  rw [Change.andThen_eq, Change.andThen_eq, lasting_append, lasting_append, h.2]

/-- A change on which nothing follows. -/
theorem Change.andThen_nothing (c : Change) : c.andThen (fun q => (q, [])) = c := by
  rw [Change.andThen_eq, List.append_nil]

/-- A frame and those behind it. -/
theorem performAll_advance_cons (elapsed : Span) (rest : List Span) (p : Playback) :
    performAll ((elapsed :: rest).map .advance) p =
      (p.advance elapsed).andThen (performAll (rest.map .advance)) := rfl

/-! ### Two advances are one -/

/-- Records can be applied in two goes. -/
theorem applyMany_add (first more : Nat) (p : Playback) :
    applyMany (first + more) p = (applyMany first p).andThen (applyMany more) := by
  induction first generalizing p with
  | zero =>
    rw [Nat.zero_add]
    rfl
  | succ first ih =>
    simp only [Nat.succ_add, applyMany, Change.andThen_eq, ih, List.append_assoc]

/-- More time is divided from where the time before came to. -/
theorem add_div_eq {delay : Nat} (positive : 0 < delay) (time more : Nat) :
    (time + more) / delay = time / delay + (time % delay + more) / delay := by
  have hsplit : time + more = delay * (time / delay) + (time % delay + more) := by
    rw [← Nat.add_assoc, Nat.div_add_mod]
  rw [hsplit, Nat.mul_add_div positive]

/-- As long as records are left, more time goes on from where the time before
came to. -/
theorem lapse_add {p : Playback} {time : Nat} (hcursor : p.cursor ≤ p.length)
    (positive : 0 < p.delay.nanos) (hle : time / p.delay.nanos ≤ p.remaining) (more : Nat) :
    p.lapse (time + more) = (p.lapse time).andThen fun q => q.lapse (q.waited.nanos + more) := by
  have hfit : p.cursor + time / p.delay.nanos ≤ p.length := by
    rw [remaining] at hle
    omega
  obtain ⟨view, hview⟩ := applyMany_eq hfit
  have hfirst : p.lapse time =
      ((applyMany (time / p.delay.nanos) p).1.waiting ⟨time % p.delay.nanos⟩,
        (applyMany (time / p.delay.nanos) p).2) := by
    rw [lapse, if_pos hle, applyMany_waiting]
  have hremaining : (applyMany (time / p.delay.nanos) p).1.remaining =
      p.remaining - time / p.delay.nanos := by
    rw [hview]
    exact Nat.sub_add_eq _ _ _
  have hdelay : (applyMany (time / p.delay.nanos) p).1.delay = p.delay := by rw [hview]
  have hmod : (time % p.delay.nanos + more) % p.delay.nanos = (time + more) % p.delay.nanos :=
    Nat.mod_add_mod _ _ _
  rw [hfirst, Change.andThen_eq, lapse, lapse, waited_waiting, delay_waiting, remaining_waiting,
    hdelay, hremaining, hmod, add_div_eq positive]
  dsimp only
  generalize (time % p.delay.nanos + more) / p.delay.nanos = later
  generalize time / p.delay.nanos = due at *
  by_cases hlater : later ≤ p.remaining - due
  · rw [if_pos hlater, if_pos (by omega), applyMany_add, applyMany_waiting]
    rfl
  · have hsplit : due + (p.remaining - due) = p.remaining := by omega
    have hrest : applyMany p.remaining p =
        (applyMany due p).andThen (applyMany (p.remaining - due)) := by
      rw [← applyMany_add, hsplit]
    rw [if_neg hlater, if_neg (by omega), applyMany_waiting, hrest]
    simp only [Change.andThen_eq, finish_waiting, List.append_assoc]

section Frames

variable {report : Report} {p : Playback}

/-- As long as records are left, two advances are one by both spans. -/
theorem advance_add (h : Reached report p) (playing : p.state = .playing) {elapsed : Span}
    (hle : (p.waited.nanos + elapsed.nanos) / p.delay.nanos ≤ p.remaining) (more : Span) :
    (p.advance elapsed).andThen (·.advance more) = p.advance (elapsed.add more) := by
  have hfirst (span : Span) : p.advance span = p.lapse (p.waited.nanos + span.nanos) :=
    advance_eq_lapse playing (h.off_of_playing playing) h.positive span
  have hreached : Reached report (p.advance elapsed).1 := h.performAll [.advance elapsed]
  have hplaying : (p.advance elapsed).1.state = .playing := by
    rcases advance_cases h playing elapsed with ⟨_, view, hc⟩ | ⟨hgt, _⟩
    · rw [hc]
      exact playing
    · exact absurd hle (Nat.not_le.mpr hgt)
  have hsecond :=
    advance_eq_lapse hplaying (hreached.off_of_playing hplaying) hreached.positive more
  have hcursor : p.cursor ≤ p.length := by
    rw [← h.cursor_add_remaining]
    exact Nat.le_add_right _ _
  calc (p.advance elapsed).andThen (·.advance more)
      = (p.lapse (p.waited.nanos + elapsed.nanos)).andThen
          fun q => q.lapse (q.waited.nanos + more.nanos) := by
        rw [Change.andThen_eq, hsecond, hfirst]
        rfl
    _ = p.lapse (p.waited.nanos + elapsed.nanos + more.nanos) :=
        (lapse_add hcursor h.positive hle more.nanos).symm
    _ = p.advance (elapsed.add more) := by
        rw [hfirst, Nat.add_assoc]
        rfl

/-- The time of a celebration is not noticed but by its end. -/
theorem alike_advance_of_not_playing (hs : p.state ≠ .playing) (elapsed : Span) :
    Alike (p.advance elapsed) (p, []) := by
  rw [advance_of_not_playing hs]
  unfold advanceCelebration
  split
  · exact ⟨rfl, rfl⟩
  · split
    · next left on _ =>
      rw [endCelebration, on]
      exact ⟨rfl, rfl⟩
    · exact ⟨rfl, rfl⟩

/-- Where nothing is played, no frame is noticed but by the end of a
celebration. -/
theorem alike_advances_of_not_playing (hs : p.state ≠ .playing) (spans : List Span) :
    Alike (performAll (spans.map .advance) p) (p, []) := by
  induction spans generalizing p with
  | nil => exact ⟨rfl, rfl⟩
  | cons elapsed rest ih =>
    have hlater : (p.advance elapsed).1.state ≠ .playing := by
      obtain ⟨left, view, hc⟩ := p.advanceCelebration_eq elapsed
      rw [advance_of_not_playing hs, hc]
      exact hs
    have hfirst := alike_advance_of_not_playing hs elapsed
    have hrest := ih hlater
    rw [performAll_advance_cons]
    refine ⟨hrest.1.trans hfirst.1, ?_⟩
    rw [Change.andThen_eq, lasting_append, hfirst.2, hrest.2]
    rfl

/-- Once there are more delays over than records left, more time adds
nothing. -/
theorem advance_add_of_gt (h : Reached report p) (playing : p.state = .playing) {elapsed : Span}
    (hgt : p.remaining < (p.waited.nanos + elapsed.nanos) / p.delay.nanos) (more : Span) :
    p.advance (elapsed.add more) = p.advance elapsed := by
  have hmore : p.remaining < (p.waited.nanos + (elapsed.add more).nanos) / p.delay.nanos :=
    Nat.lt_of_lt_of_le hgt (Nat.div_le_div_right (Nat.add_le_add_left (Nat.le_add_right _ _) _))
  have off := h.off_of_playing playing
  rw [advance_eq_lapse playing off h.positive, advance_eq_lapse playing off h.positive, lapse,
    lapse, if_neg (Nat.not_le.mpr hmore), if_neg (Nat.not_le.mpr hgt)]

/-- Frames come to what one advance by their sum comes to. -/
theorem alike_advances (h : Reached report p) (playing : p.state = .playing) (elapsed : Span)
    (rest : List Span) :
    Alike (performAll ((elapsed :: rest).map .advance) p)
      (p.advance ⟨((elapsed :: rest).map Span.nanos).sum⟩) := by
  induction rest generalizing p elapsed with
  | nil =>
    rw [performAll_advance_cons]
    exact ⟨rfl, congrArg lasting (List.append_nil _)⟩
  | cons next rest ih =>
    have hreached : Reached report (p.advance elapsed).1 := h.performAll [.advance elapsed]
    have hsum : (⟨((elapsed :: next :: rest).map Span.nanos).sum⟩ : Span) =
        elapsed.add ⟨((next :: rest).map Span.nanos).sum⟩ := rfl
    rw [performAll_advance_cons, hsum]
    rcases advance_cases h playing elapsed with ⟨hle, view, hc⟩ | ⟨hgt, left, view, sink, hc⟩
    · have hplaying : (p.advance elapsed).1.state = .playing := by
        rw [hc]
        exact playing
      rw [← advance_add h playing hle]
      exact Alike.andThen (ih hreached hplaying next)
    · have hfinished : (p.advance elapsed).1.state ≠ .playing := by
        rw [hc]
        exact State.noConfusion
      have hnothing : Alike ((p.advance elapsed).andThen (performAll ((next :: rest).map .advance)))
          ((p.advance elapsed).andThen fun q => (q, [])) :=
        Alike.andThen (alike_advances_of_not_playing hfinished _)
      rw [advance_add_of_gt h playing hgt]
      rwa [Change.andThen_nothing] at hnothing

/-- Frames that add up to the same time are alike, on a clock that goes on for ever. -/
theorem alike_frames (h : Reached report p) (playing : p.state = .playing)
    {spans others : List Span} (hspans : spans ≠ []) (hothers : others ≠ [])
    (hsum : (spans.map Span.nanos).sum = (others.map Span.nanos).sum) :
    Alike (performAll (spans.map .advance) p) (performAll (others.map .advance) p) := by
  obtain ⟨first, rest, rfl⟩ := List.exists_cons_of_ne_nil hspans
  obtain ⟨other, later, rfl⟩ := List.exists_cons_of_ne_nil hothers
  have hone := alike_advances h playing first rest
  have htwo := alike_advances h playing other later
  rw [hsum] at hone
  exact ⟨hone.1.trans htwo.1.symm, hone.2.trans htwo.2.symm⟩

end Frames

/-- Whatever was done with a playback that is playing, any frames that add up to the same
time lead to the same playback and tell of the same events in the same order, if they
are answered, but for the celebration: how much of it is left, whether it is still shown
and whether its end was told. They are answered if no more time lies behind the latest
record then than a clock counts, and frames that are not have one among them that comes
within the longest delay of that. -/
theorem performAll_frames_alike {report : Report} {config : PlaybackConfig} {taken : Bool}
    {ops : List Operation} {p : Playback}
    (hp : p = (performAll ops (ofReport report config taken)).1)
    (playing : p.state = .playing) {spans others : List Span} (hspans : spans ≠ [])
    (hothers : others ≠ []) (hsum : (spans.map Span.nanos).sum = (others.map Span.nanos).sum) :
    (∀ c d, performAll? (spans.map .advance) p = some c →
      performAll? (others.map .advance) p = some d →
        c.1.hushed = d.1.hushed ∧
          c.2.filter (· ≠ .celebrationEnded) = d.2.filter (· ≠ .celebrationEnded)) ∧
      (p.waited.nanos + (spans.map Span.nanos).sum ≤ Span.longest.nanos →
        (∃ c, performAll? (spans.map .advance) p = some c) ∧
          ∃ d, performAll? (others.map .advance) p = some d) ∧
      (performAll? (spans.map .advance) p = none →
        ∃ elapsed ∈ spans, Span.longest.nanos < longestDelay.nanos + elapsed.nanos) := by
  have h : Reached report p := hp ▸ reached_performAll report config taken ops
  refine ⟨fun c d hc hd => ?_, fun hsmall => ⟨?_, ?_⟩, fun hnone => ?_⟩
  · obtain rfl := performAll_of_performAll? hc
    obtain rfl := performAll_of_performAll? hd
    exact alike_frames h playing hspans hothers hsum
  · exact exists_performAll?_advances h fun _ => hsmall
  · exact exists_performAll?_advances h fun _ => hsum ▸ hsmall
  · have hpatient : Patient p :=
      hp ▸ (patient_ofReport report config taken).performAll
        (reached_performAll report config taken []) ops
    obtain ⟨elapsed, hmem, hlong⟩ := exists_advance_of_overrun h hpatient hnone
    obtain ⟨span, hspan, hsame⟩ := List.mem_map.mp hmem
    exact ⟨span, hspan, Operation.advance.inj hsame ▸ hlong⟩

/-- A stroll whose wait was overtaken comes to its end in three frames as in one, though
more of the celebration is over then. A frame of all that a clock counts is not answered,
but it is if one second of it goes by before. -/
theorem performAll_frames_alike_hurried :
    let spans : List Span := [.zero, .ofMillis 30, .ofMillis 6000]
    let others : List Span := [.ofMillis 6030]
    let halves : List Span := [.ofMillis 1000, Span.longest.sub (.ofMillis 1000)]
    hurried.state = .playing ∧ spans ≠ [] ∧ others ≠ [] ∧
      (spans.map Span.nanos).sum = (others.map Span.nanos).sum ∧
      (∃ c d, performAll? (spans.map .advance) hurried = some c ∧
        performAll? (others.map .advance) hurried = some d ∧
        c.1.hushed = d.1.hushed ∧
        c.2.filter (· ≠ .celebrationEnded) = d.2.filter (· ≠ .celebrationEnded) ∧ c.2 ≠ d.2) ∧
      (halves.map Span.nanos).sum = Span.longest.nanos ∧
      (performAll? (halves.map .advance) hurried).isSome = true ∧
      performAll? [.advance Span.longest] hurried = none := by
  intro spans others halves
  have hstate : hurried.state = .playing := by decide +kernel
  have hsum : (spans.map Span.nanos).sum = (others.map Span.nanos).sum := by decide
  have hspans : spans ≠ [] := List.cons_ne_nil _ _
  have hothers : others ≠ [] := List.cons_ne_nil _ _
  have hsmall : hurried.waited.nanos + (spans.map Span.nanos).sum ≤ Span.longest.nanos := by
    decide +kernel
  obtain ⟨hagree, hreturn, -⟩ := performAll_frames_alike rfl hstate hspans hothers hsum
  obtain ⟨⟨c, hc⟩, d, hd⟩ := hreturn hsmall
  obtain ⟨hplayback, hevents⟩ := hagree c d hc hd
  have hdiffer : c.2 ≠ d.2 := by
    rw [← performAll_of_performAll? hc, ← performAll_of_performAll? hd]
    decide +kernel
  exact ⟨hstate, hspans, hothers, hsum, ⟨c, d, hc, hd, hplayback, hevents, hdiffer⟩,
    by decide, by decide +kernel, by decide +kernel⟩

end MazeRobot.Playback

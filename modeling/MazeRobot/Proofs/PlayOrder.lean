import MazeRobot.Catalog
import MazeRobot.Proofs.Grid

/-!
# Play order

A catalog plays the puzzles that it was made of, each as often as it was given.
Those that ask for a place come by that place and then by difficulty, the others
by difficulty, and those that are alike in both stay as they were given. A puzzle
that asks for a place comes before all that ask for none, but for one case: who
asks for none is given the last place that there is, and so whoever asks for just
that place has to share it with them.
-/

namespace MazeRobot.Catalog

section Sorting

variable {α : Type} {le : α → α → Bool}

/-- Sorting leaves those as they were between which the order does not decide. -/
theorem filter_mergeSort (trans : ∀ a b c, le a b = true → le b c = true → le a c = true)
    (total : ∀ a b, (le a b || le b a) = true) {alike : α → Bool}
    (halike : ∀ a b, alike a = true → alike b = true → le a b = true) (l : List α) :
    (l.mergeSort le).filter alike = l.filter alike := by
  have hordered : (l.filter alike).Pairwise fun a b => le a b = true :=
    List.pairwise_of_forall_mem_list fun a ha b hb =>
      halike a b (List.mem_filter.mp ha).2 (List.mem_filter.mp hb).2
  have hsorted : (l.filter alike).Sublist (l.mergeSort le) :=
    List.sublist_mergeSort trans total hordered List.filter_sublist
  have hkept : (l.filter alike).Sublist ((l.mergeSort le).filter alike) := by
    simpa only [List.filter_filter, Bool.and_self] using hsorted.filter alike
  have hlength := ((List.mergeSort_perm l le).filter alike).length_eq
  exact (hkept.eq_of_length_le (Nat.le_of_eq hlength)).symm

/-- Of two different elements of a list, one comes before the other. -/
theorem pair_sublist_or {l : List α} {a b : α} (ha : a ∈ l) (hb : b ∈ l) (hne : a ≠ b) :
    [a, b].Sublist l ∨ [b, a].Sublist l := by
  induction l with
  | nil => cases ha
  | cons first rest ih =>
    rcases List.mem_cons.mp ha with rfl | harest
    · have hrest := (List.mem_cons.mp hb).resolve_left (Ne.symm hne)
      exact .inl ((List.singleton_sublist.mpr hrest).cons_cons a)
    · rcases List.mem_cons.mp hb with rfl | hbrest
      · exact .inr ((List.singleton_sublist.mpr harest).cons_cons b)
      · exact (ih harest hbrest).imp (·.cons first) (·.cons first)

end Sorting

/-- Being played before another puzzle, in numbers. -/
theorem precedes_iff (p q : Puzzle) : precedes p q = true ↔
    place p < place q ∨ place p = place q ∧ p.difficulty.rank ≤ q.difficulty.rank := by
  simp only [precedes, Bool.or_eq_true, Bool.and_eq_true, decide_eq_true_eq, beq_iff_eq]

theorem precedes_trans (p q s : Puzzle) (hpq : precedes p q = true) (hqs : precedes q s = true) :
    precedes p s = true := by
  rw [precedes_iff] at *
  omega

theorem precedes_total (p q : Puzzle) : (precedes p q || precedes q p) = true := by
  rw [Bool.or_eq_true, precedes_iff, precedes_iff]
  omega

/-- The last place that there is. -/
def lastPlace : UInt32 := 4294967295

theorem place_of_none {p : Puzzle} (h : p.order = none) : place p = lastPlace.toNat := by
  rw [place, h]
  rfl

theorem place_of_some {p : Puzzle} {order : UInt32} (h : p.order = some order) :
    place p = order.toNat := by
  rw [place, h]
  rfl

/-- Only one place is as far back as the last one. -/
theorem eq_lastPlace {order : UInt32} (h : lastPlace.toNat ≤ order.toNat) : order = lastPlace := by
  have hlt : order.toNat < 4294967296 := order.toNat_lt
  have hlast : lastPlace.toNat = 4294967295 := rfl
  exact UInt32.toNat_inj.mp (by omega)

/-- Whether a puzzle asks for this and is that hard. -/
def isOf (order : Option UInt32) (difficulty : Difficulty) (p : Puzzle) : Bool :=
  p.order == order && p.difficulty == difficulty

/-- Whether a puzzle has this place and is that hard. -/
def isAt (number rank : Nat) (p : Puzzle) : Bool :=
  place p == number && p.difficulty.rank == rank

/-- Puzzles that are given are played by place and difficulty. -/
structure InOrder (given played : List Puzzle) : Prop where
  /-- Each is played as often as it is given. -/
  perm : played.Perm given
  /-- Those that ask for a place are played by place and then by difficulty. -/
  placed : played.Pairwise fun p q => ∀ m n, p.order = some m → q.order = some n →
    m < n ∨ m = n ∧ p.difficulty.rank ≤ q.difficulty.rank
  /-- The others are played by difficulty. -/
  others : played.Pairwise fun p q => p.order = none → q.order = none →
    p.difficulty.rank ≤ q.difficulty.rank
  /-- Those that are alike in both are played as they are given. -/
  stable : ∀ order difficulty,
    played.filter (isOf order difficulty) = given.filter (isOf order difficulty)

/-- Every puzzle that asks for a place is played before all that ask for none. -/
def PlacedFirst (played : List Puzzle) : Prop :=
  played.Pairwise fun p q => q.order.isSome = true → p.order.isSome = true

/-- A puzzle that asks for no place is easier than one that asks for the last
place, or it is as hard and is given before it. -/
structure Overtakes (given : List Puzzle) (q p : Puzzle) : Prop where
  /-- It asks for none. -/
  unplaced : q.order = none
  /-- The other one asks for the last place. -/
  last : p.order = some lastPlace
  /-- Both are given. -/
  members : q ∈ given ∧ p ∈ given
  /-- It is easier, or given before. -/
  before : q.difficulty.rank < p.difficulty.rank ∨
    q.difficulty = p.difficulty ∧ [q, p].Sublist given

section OfList

variable (given : List Puzzle)

theorem pairwise_ofList : (ofList given).puzzles.Pairwise fun p q => precedes p q = true :=
  List.pairwise_mergeSort precedes_trans precedes_total given

theorem perm_ofList : (ofList given).puzzles.Perm given :=
  List.mergeSort_perm given precedes

/-- A catalog holds the puzzles that it was made of. -/
theorem mem_ofList {given : List Puzzle} {p : Puzzle} : p ∈ (ofList given).puzzles ↔ p ∈ given :=
  (perm_ofList given).mem_iff

/-- Puzzles with one place and one difficulty stay as they are given. -/
theorem filter_isAt_ofList (number rank : Nat) :
    (ofList given).puzzles.filter (isAt number rank) = given.filter (isAt number rank) := by
  refine filter_mergeSort precedes_trans precedes_total (fun p q hp hq => ?_) given
  simp only [isAt, Bool.and_eq_true, beq_iff_eq] at hp hq
  rw [precedes_iff]
  omega

/-- Puzzles that are alike in what they ask for and in difficulty stay as they
are given. -/
theorem filter_isOf_ofList (order : Option UInt32) (difficulty : Difficulty) :
    (ofList given).puzzles.filter (isOf order difficulty) =
      given.filter (isOf order difficulty) := by
  refine filter_mergeSort precedes_trans precedes_total (fun p q hp hq => ?_) given
  simp only [isOf, Bool.and_eq_true, beq_iff_eq] at hp hq
  obtain ⟨⟨hp, hpd⟩, hq, hqd⟩ := And.intro hp hq
  rw [precedes_iff, place, place, hp, hq, hpd, hqd]
  exact .inr ⟨rfl, Nat.le_refl _⟩

theorem inOrder_ofList : InOrder given (ofList given).puzzles where
  perm := perm_ofList given
  placed := (pairwise_ofList given).imp fun {p q} h m n hm hn => by
    rw [precedes_iff, place_of_some hm, place_of_some hn] at h
    rw [UInt32.lt_iff_toNat_lt, ← UInt32.toNat_inj]
    exact h
  others := (pairwise_ofList given).imp fun {p q} h hp hq => by
    rw [precedes_iff, place_of_none hp, place_of_none hq] at h
    omega
  stable := filter_isOf_ofList given

variable {given} {p q : Puzzle}

/-- Who asks for no place comes before one that asks for a place only in the last
place there is, and then by being easier or by being given before. -/
theorem overtakes_of_sublist (hq : q.order = none) (hp : p.order.isSome = true)
    (h : [q, p].Sublist (ofList given).puzzles) : Overtakes given q p := by
  obtain ⟨order, horder⟩ := Option.isSome_iff_exists.mp hp
  have hprecedes := (precedes_iff q p).mp ((pairwise_ofList given).forall_sublist h)
  rw [place_of_none hq, place_of_some horder] at hprecedes
  have hlast : order = lastPlace := eq_lastPlace (by omega)
  subst hlast
  have hmem {s : Puzzle} (hs : s ∈ [q, p]) : s ∈ given := mem_ofList.mp (h.subset hs)
  refine ⟨hq, horder, ⟨hmem List.mem_cons_self, hmem (List.mem_cons_of_mem _ List.mem_cons_self)⟩,
    ?_⟩
  rcases Nat.lt_or_ge q.difficulty.rank p.difficulty.rank with hlt | hge
  · exact .inl hlt
  · have hrank : p.difficulty.rank = q.difficulty.rank := by omega
    refine .inr ⟨Difficulty.rank_inj hrank.symm, ?_⟩
    -- The two share place and difficulty, so sorting has left them as they were.
    have hpair : [q, p].filter (isAt lastPlace.toNat q.difficulty.rank) = [q, p] := by
      simp [isAt, place_of_none hq, place_of_some horder, hrank]
    have hkept := h.filter (isAt lastPlace.toNat q.difficulty.rank)
    rw [hpair, filter_isAt_ofList] at hkept
    exact hkept.trans List.filter_sublist

/-- Who overtakes another puzzle is played before it. -/
theorem Overtakes.sublist (h : Overtakes given q p) : [q, p].Sublist (ofList given).puzzles := by
  have hqp : place q = place p := (place_of_none h.unplaced).trans (place_of_some h.last).symm
  rcases h.before with heasier | ⟨halike, hbefore⟩
  · have hne : q ≠ p := fun heq => Nat.lt_irrefl _ (heq ▸ heasier)
    obtain ⟨hq, hp⟩ := h.members
    refine (pair_sublist_or (mem_ofList.mpr hq) (mem_ofList.mpr hp) hne).resolve_right fun hpq => ?_
    have hprecedes := (precedes_iff p q).mp ((pairwise_ofList given).forall_sublist hpq)
    omega
  · have hprecedes : precedes q p = true := by
      rw [precedes_iff, hqp, halike]
      exact .inr ⟨rfl, Nat.le_refl _⟩
    exact List.pair_sublist_mergeSort precedes_trans precedes_total hprecedes hbefore

/-- The puzzles that ask for a place come first unless one of them is overtaken. -/
theorem placedFirst_ofList_iff :
    PlacedFirst (ofList given).puzzles ↔ ¬∃ q p, Overtakes given q p := by
  constructor
  · rintro hfirst ⟨q, p, h⟩
    have hplaced := hfirst.forall_sublist h.sublist (by rw [h.last]; rfl)
    rw [h.unplaced] at hplaced
    cases hplaced
  · intro hnone
    refine List.pairwise_of_forall_sublist fun {q p} h hp => ?_
    cases hq : q.order with
    | some order => rfl
    | none => exact absurd ⟨q, p, overtakes_of_sublist hq hp h⟩ hnone

end OfList

/-- Every catalog plays its puzzles by place and difficulty, alike ones as they
were given. Those that ask for a place come before all that ask for none exactly
if there are no two of which one asks for the last place there is and the other
one for none, while the latter is easier or is as hard and was given before. -/
theorem ofList_inOrder_placedFirst_iff (given : List Puzzle) :
    InOrder given (ofList given).puzzles ∧
      (PlacedFirst (ofList given).puzzles ↔ ¬∃ q p, Overtakes given q p) :=
  ⟨inOrder_ofList given, placedFirst_ofList_iff⟩

/-- A puzzle that can be played, of some difficulty and with some wish for a
place. -/
def contender (id : String) (difficulty : Difficulty) (order : Option UInt32) : Puzzle where
  id := id
  title := id
  description := ""
  difficulty := difficulty
  order := order
  grid := .crossing
  goal := ⟨2, 2⟩
  hint := none
  solution := none

/-- A hard puzzle that asks for the last place, and an easy one that asks for
none. -/
def rivals : List Puzzle :=
  [contender "placed" .hard (some lastPlace), contender "free" .easy none]

/-- The one that asks for none is played before the one that asks for a place. -/
theorem ofList_not_placedFirst_rivals : ¬PlacedFirst (ofList rivals).puzzles := by
  intro hfirst
  have hovertakes : Overtakes rivals (contender "free" .easy none)
      (contender "placed" .hard (some lastPlace)) :=
    ⟨rfl, rfl, by decide, .inl (by decide)⟩
  exact placedFirst_ofList_iff.mp hfirst ⟨_, _, hovertakes⟩

end MazeRobot.Catalog

import Mathlib.Algebra.BigOperators.Group.List.Lemmas
import Mathlib.Algebra.GroupWithZero.Nat
import Mathlib.Data.Finset.Card
import Mathlib.Data.List.Chain
import MazeRobot.Proofs.Accounting

/-!
# Memories are histories

What a robot remembers of the cells that it entered is the history of its walk
and nothing else: the start cell and the cells of its moves, in their order,
can be read from the trace, and the memory counts each of them as often as it
occurs there. Whatever is asked of a robot, in whatever order, keeps the two
together. A count is a 32-bit word, but it never wraps around: there are no
more moves than steps in the budget, and no move leads to the cell that it
comes from, so that one cell can make up half of the walk at most.
-/

namespace MazeRobot

namespace Visits

/-- Cells with the counts that they have. -/
def listing (counts : Coord → UInt32) (cells : List Coord) : List VisitedCell :=
  cells.map fun c => ⟨c, counts c⟩

section Listing

variable {counts raised : Coord → UInt32} {cells : List Coord} {c : Coord}

/-- Only the counts of the cells that are listed matter. -/
theorem listing_congr (h : ∀ d ∈ cells, raised d = counts d) :
    listing raised cells = listing counts cells :=
  List.map_congr_left fun d hd => congrArg (VisitedCell.mk d) (h d hd)

/-- A cell that is listed has its count raised where it stands. -/
theorem bump_listing_of_mem (once : cells.Nodup) (h : c ∈ cells)
    (hraised : raised c = counts c + 1) (hothers : ∀ d ≠ c, raised d = counts d) :
    bump c (listing counts cells) = listing raised cells := by
  induction cells with
  | nil => cases h
  | cons first rest ih =>
    obtain ⟨hfirst, hrest⟩ := List.nodup_cons.mp once
    rw [listing, listing, List.map_cons, List.map_cons, bump]
    by_cases hc : first = c
    · subst hc
      have hlater : listing raised rest = listing counts rest :=
        listing_congr fun d hd => hothers d (ne_of_mem_of_not_mem hd hfirst)
      rw [if_pos rfl, hraised]
      exact congrArg (List.cons _) hlater.symm
    · have hmem : c ∈ rest := (List.mem_cons.mp h).resolve_left (Ne.symm hc)
      rw [if_neg hc, hothers first hc]
      exact congrArg (List.cons _) (ih hrest hmem)

/-- A new cell goes to the end. -/
theorem bump_listing_of_not_mem (h : c ∉ cells) (hraised : raised c = 1)
    (hothers : ∀ d ≠ c, raised d = counts d) :
    bump c (listing counts cells) = listing raised (cells ++ [c]) := by
  induction cells with
  | nil => exact congrArg (fun count => [VisitedCell.mk c count]) hraised.symm
  | cons first rest ih =>
    obtain ⟨hfirst, hrest⟩ := List.ne_and_not_mem_of_not_mem_cons h
    rw [listing, listing, List.cons_append, List.map_cons, List.map_cons, bump,
      if_neg (Ne.symm hfirst), hothers first (Ne.symm hfirst)]
    exact congrArg (List.cons _) (ih hrest)

end Listing

/-- How often a cell occurs in a walk, as a word. -/
def countIn (walk : List Coord) (c : Coord) : UInt32 :=
  UInt32.ofNat (walk.count c)

section Walk

variable {walk : List Coord} {c d : Coord}

theorem countIn_append_self (walk : List Coord) (c : Coord) :
    countIn (walk ++ [c]) c = countIn walk c + 1 := by
  rw [countIn, List.count_append, List.count_singleton_self, UInt32.ofNat_add]
  rfl

theorem countIn_append_of_ne (walk : List Coord) (h : d ≠ c) :
    countIn (walk ++ [c]) d = countIn walk d := by
  rw [countIn, List.count_append, List.count_singleton, beq_false_of_ne (Ne.symm h)]
  rfl

/-- The distinct cells of a walk that goes on: a cell counts when it is new. -/
theorem eraseDups_append_singleton (walk : List Coord) (c : Coord) :
    (walk ++ [c]).eraseDups = if c ∈ walk then walk.eraseDups else walk.eraseDups ++ [c] := by
  rw [List.eraseDups_append, List.removeAll, List.filter_singleton]
  split
  · next h => simp [h]
  · next h => simp [h, List.eraseDups_cons]

/-- The distinct cells stand in the order in which the walk first came to
them. -/
theorem pairwise_eraseDups (walk : List Coord) :
    walk.eraseDups.Pairwise fun c d => walk.idxOf c < walk.idxOf d := by
  induction walk using List.reverseRecOn with
  | nil => exact List.Pairwise.nil
  | append_singleton walk last ih =>
    have hkept : walk.eraseDups.Pairwise fun c d =>
        (walk ++ [last]).idxOf c < (walk ++ [last]).idxOf d := by
      refine ih.imp_of_mem fun hc hd hlt => ?_
      rwa [List.idxOf_append_of_mem (List.mem_eraseDups.mp hc),
        List.idxOf_append_of_mem (List.mem_eraseDups.mp hd)]
    rw [eraseDups_append_singleton]
    split
    · exact hkept
    · next h =>
      refine List.pairwise_append.mpr ⟨hkept, List.pairwise_singleton _ _, fun c hc d hd => ?_⟩
      have hmem : c ∈ walk := List.mem_eraseDups.mp hc
      obtain rfl := List.mem_singleton.mp hd
      rw [List.idxOf_append_of_mem hmem, List.idxOf_append_of_notMem h]
      exact Nat.lt_add_right _ (List.idxOf_lt_length_of_mem hmem)

theorem nodup_eraseDups (walk : List Coord) : walk.eraseDups.Nodup :=
  (pairwise_eraseDups walk).imp fun hlt heq => Nat.ne_of_lt hlt (congrArg walk.idxOf heq)

/-- The memory of a walk in closed form. -/
theorem cells_ofWalk (walk : List Coord) :
    (ofWalk walk).cells = listing (countIn walk) walk.eraseDups := by
  induction walk using List.reverseRecOn with
  | nil => rfl
  | append_singleton walk c ih =>
    have hraised := countIn_append_self walk c
    have hothers (d : Coord) (hd : d ≠ c) := countIn_append_of_ne walk hd
    rw [ofWalk_append_singleton, visit, ih, eraseDups_append_singleton]
    split
    · next h =>
      exact bump_listing_of_mem (nodup_eraseDups walk) (List.mem_eraseDups.mpr h) hraised hothers
    · next h =>
      have hnew : c ∉ walk.eraseDups := fun hc => h (List.mem_eraseDups.mp hc)
      have hnever : countIn walk c = 0 := by rw [countIn, List.count_eq_zero_of_not_mem h]; rfl
      rw [hnever] at hraised
      exact bump_listing_of_not_mem hnew hraised hothers

/-- The first entry of a cell tells its count. -/
theorem count_cons (first : VisitedCell) (rest : List VisitedCell) (c : Coord) :
    (Visits.mk (first :: rest)).count c =
      if first.cell = c then first.count else (Visits.mk rest).count c := by
  unfold count
  by_cases h : first.cell = c <;> simp [h]

/-- One more visit raises the count of its cell and no other. -/
theorem count_visit (v : Visits) (c d : Coord) :
    (v.visit c).count d = v.count d + if c = d then 1 else 0 := by
  obtain ⟨cells⟩ := v
  unfold visit
  dsimp only
  induction cells with
  | nil => exact (count_cons _ _ _).trans (UInt32.zero_add _).symm
  | cons first rest ih =>
    rw [bump, count_cons]
    split
    · next hfirst =>
      rw [count_cons, hfirst]
      split <;> simp
    · next hfirst =>
      rw [count_cons, ih]
      split
      · next h =>
        have hne : ¬c = d := fun hc => hfirst (h.trans hc.symm)
        rw [if_neg hne, UInt32.add_zero]
      · rfl

/-- The count of a cell is the one of the walk, as a word. -/
theorem count_ofWalk (walk : List Coord) (c : Coord) :
    (ofWalk walk).count c = countIn walk c := by
  induction walk using List.reverseRecOn with
  | nil => rfl
  | append_singleton walk last ih =>
    rw [ofWalk_append_singleton, count_visit, ih]
    by_cases h : last = c
    · rw [if_pos h, ← h, countIn_append_self]
    · rw [if_neg h, UInt32.add_zero, countIn_append_of_ne walk (Ne.symm h)]

/-- The cells that were seen are those of the walk. -/
theorem has_ofWalk (walk : List Coord) (c : Coord) : (ofWalk walk).has c = true ↔ c ∈ walk := by
  induction walk using List.reverseRecOn with
  | nil => simp [ofWalk, none, has]
  | append_singleton walk last ih =>
    rw [ofWalk_append_singleton, has_visit, Bool.or_eq_true, ih, List.mem_append,
      List.mem_singleton, beq_iff_eq, eq_comm (a := c)]

/-- The counts of the distinct cells add up to the whole walk. -/
theorem sum_count_eraseDups (walk : List Coord) :
    (walk.eraseDups.map walk.count).sum = walk.length := by
  have hperm : walk.eraseDups.Perm walk.dedup :=
    (List.perm_ext_iff_of_nodup (nodup_eraseDups walk) walk.nodup_dedup).mpr fun c =>
      List.mem_eraseDups.trans List.mem_dedup.symm
  exact (hperm.map walk.count).sum_nat.trans (List.sum_map_count_dedup_eq_length walk)

end Walk

/-- A memory is the history of a walk. -/
structure Remembers (v : Visits) (walk : List Coord) : Prop where
  /-- Every cell counts as often as it occurs. -/
  count : ∀ c, (v.count c).toNat = walk.count c
  /-- The cells that were seen are those that occur. -/
  has : ∀ c, v.has c = true ↔ c ∈ walk
  /-- They are the ones that are listed. -/
  listed : ∀ c, c ∈ v.cells.map (·.cell) ↔ c ∈ walk
  /-- Each is listed once, and in the order in which they occurred first. -/
  ordered : (v.cells.map (·.cell)).Pairwise fun c d => walk.idxOf c < walk.idxOf d
  /-- Each is listed with its count, and that is never zero. -/
  counted : ∀ entry ∈ v.cells, entry.count = v.count entry.cell ∧ 1 ≤ entry.count.toNat
  /-- There are as many as there are distinct cells. -/
  size : v.size = walk.toFinset.card
  /-- The counts add up to the whole walk. -/
  total : (v.cells.map (·.count.toNat)).sum = walk.length

/-- As long as no count outgrows its word, the memory of a walk is its
history. -/
theorem remembers_ofWalk {walk : List Coord} (fits : ∀ c, walk.count c < UInt32.size) :
    (ofWalk walk).Remembers walk := by
  have hcount (c : Coord) : (countIn walk c).toNat = walk.count c :=
    UInt32.toNat_ofNat_of_lt' (fits c)
  have hcells : (ofWalk walk).cells.map (·.cell) = walk.eraseDups := by
    rw [cells_ofWalk, listing, List.map_map]
    exact List.map_id _
  refine ⟨fun c => ?_, has_ofWalk walk, fun c => ?_, ?_, fun one hone => ?_, ?_, ?_⟩
  · rw [count_ofWalk, hcount]
  · rw [hcells]
    exact List.mem_eraseDups
  · rw [hcells]
    exact pairwise_eraseDups walk
  · rw [cells_ofWalk] at hone
    obtain ⟨c, hc, rfl⟩ := List.mem_map.mp hone
    refine ⟨(count_ofWalk walk c).symm, ?_⟩
    rw [hcount]
    exact List.count_pos_iff.mpr (List.mem_eraseDups.mp hc)
  · have hsame : walk.toFinset = walk.eraseDups.toFinset :=
      List.toFinset.ext fun c => List.mem_eraseDups.symm
    rw [hsame, List.toFinset_card_of_nodup (nodup_eraseDups walk), size, cells_ofWalk, listing,
      List.length_map]
  · have hcounts : (ofWalk walk).cells.map (·.count.toNat) = walk.eraseDups.map walk.count := by
      rw [cells_ofWalk, listing, List.map_map]
      exact List.map_congr_left fun c _ => hcount c
    rw [hcounts, sum_count_eraseDups]

/-- A walk that never goes from a cell to itself is at most half of the time,
and once more, at any one of them. -/
theorem two_mul_count_le {walk : List Coord} (moving : walk.IsChain (· ≠ ·)) (c : Coord) :
    2 * walk.count c ≤ walk.length + 1 := by
  -- A walk that begins elsewhere has no odd visit over.
  suffices h : 2 * walk.count c ≤ walk.length + 1 ∧
      (walk.head? ≠ some c → 2 * walk.count c ≤ walk.length) from h.1
  induction walk with
  | nil => simp
  | cons first rest ih =>
    obtain ⟨hnext, hrest⟩ := List.isChain_cons.mp moving
    obtain ⟨hall, helsewhere⟩ := ih hrest
    by_cases h : first = c
    · subst h
      have hrest := helsewhere fun hhead => hnext first hhead rfl
      rw [List.count_cons_self, List.length_cons]
      exact ⟨by omega, fun hne => absurd rfl hne⟩
    · rw [List.count_cons_of_ne h, List.length_cons]
      exact ⟨by omega, fun _ => hall⟩

end Visits

namespace Trace

/-- The cells that the moves of a trace led to, in order. -/
def entered (t : Trace) : List Coord :=
  (t.toList.filter (·.kind == .move)).map (·.position)

/-- The walk that a trace tells of a robot that began at `start`. -/
def walkFrom (t : Trace) (start : Coord) : List Coord :=
  start :: t.entered

theorem length_walkFrom (t : Trace) (start : Coord) :
    (t.walkFrom start).length = 1 + t.countOf .move := by
  rw [walkFrom, entered, List.length_cons, List.length_map, countOf, List.countP_eq_length_filter,
    Nat.add_comm]

/-- A record that is no move leaves the walk as it is. -/
theorem walkFrom_of_not_move {t u : Trace} {record : Record}
    (h : u.toList = t.toList ++ [record]) (hkind : record.kind ≠ .move) (start : Coord) :
    u.walkFrom start = t.walkFrom start := by
  rw [walkFrom, walkFrom, entered, entered, h, List.filter_append,
    List.filter_singleton, beq_false_of_ne hkind, cond_false, List.append_nil]

/-- A move goes on with it. -/
theorem walkFrom_of_move {t u : Trace} {record : Record}
    (h : u.toList = t.toList ++ [record]) (hkind : record.kind = .move) (start : Coord) :
    u.walkFrom start = t.walkFrom start ++ [record.position] := by
  rw [walkFrom, walkFrom, entered, entered, h, List.filter_append,
    List.filter_singleton, hkind, beq_self_eq_true, cond_true, List.map_append]
  rfl

end Trace

namespace Robot

/-- The cell ahead is another one, also where a coordinate wraps around. -/
theorem project_front_ne (r : Robot) : r.project .front ≠ r.position := by
  intro h
  have hx : r.position.x + r.heading.delta.x = r.position.x := congrArg Coord.x h
  have hy : r.position.y + r.heading.delta.y = r.position.y := congrArg Coord.y h
  rw [Int32.add_eq_left] at hx hy
  cases hheading : r.heading <;> rw [hheading] at hx hy <;> revert hx hy <;> decide

/-- The memory of a robot is that of the walk in its trace. -/
structure Recalls (start : Coord) (r : Robot) : Prop where
  /-- The cells were entered in the order of the walk. -/
  visits : r.visits = .ofWalk (r.trace.walkFrom start)
  /-- The walk leads to where the robot stands. -/
  last : (r.trace.walkFrom start).getLast? = some r.position
  /-- No move led to the cell that it came from. -/
  moving : (r.trace.walkFrom start).IsChain (· ≠ ·)

variable {start : Coord} {r s : Robot}

/-- What leaves memory, walk and place as they are leaves the memory that of
the walk. -/
theorem Recalls.of_same (h : Recalls start r) (hvisits : s.visits = r.visits)
    (hposition : s.position = r.position)
    (hwalk : s.trace.walkFrom start = r.trace.walkFrom start) : Recalls start s := by
  refine ⟨?_, ?_, ?_⟩
  · rw [hvisits, hwalk, h.visits]
  · rw [hwalk, hposition, h.last]
  · rw [hwalk]
    exact h.moving

/-- Every elementary action keeps memory and walk together. -/
theorem Action.recalls (ha : Action r s) (h : Recalls start r) : Recalls start s := by
  cases ha with
  | note message =>
    exact h.of_same rfl rfl
      (Trace.walkFrom_of_not_move (toList_note r message) ActionKind.noConfusion start)
  | advance left free =>
    have hwalk : r.advance.trace.walkFrom start =
        r.trace.walkFrom start ++ [r.project .front] :=
      Trace.walkFrom_of_move (toList_advance r) rfl start
    refine ⟨?_, ?_, ?_⟩
    · rw [hwalk, Visits.ofWalk_append_singleton, ← h.visits]
      rfl
    · rw [hwalk, List.getLast?_concat]
      rfl
    · rw [hwalk]
      refine List.isChain_append.mpr ⟨h.moving, List.isChain_singleton _, fun c hc d hd => ?_⟩
      rw [h.last, Option.mem_some_iff] at hc
      rw [List.head?_cons, Option.mem_some_iff] at hd
      rw [← hc, ← hd]
      exact r.project_front_ne.symm
  | rotate left t =>
    exact h.of_same rfl rfl
      (Trace.walkFrom_of_not_move (toList_rotate r t) ActionKind.noConfusion start)
  | finish => exact h.of_same rfl rfl rfl
  | refuse used => exact h.of_same rfl rfl rfl

theorem recalls_init (g : Grid) (start goal : Coord) (maxSteps : UInt32) :
    Recalls start (init g start goal maxSteps) where
  visits := rfl
  last := rfl
  moving := List.isChain_singleton _

/-- A robot that keeps to its budget remembers its walk exactly. -/
theorem Recalls.remembers (h : Recalls start r) (counted : Counted r) :
    r.visits.Remembers (r.trace.walkFrom start) := by
  rw [h.visits]
  refine Visits.remembers_ofWalk fun c => ?_
  have hhalf := Visits.two_mul_count_le h.moving c
  have hsteps := counted.steps
  have hwithin := counted.within
  have hword : r.maxSteps.toNat < 4294967296 := r.maxSteps.toNat_lt_size
  have hsize : UInt32.size = 4294967296 := rfl
  rw [Trace.countP_isStep] at hsteps
  rw [Trace.length_walkFrom] at hhalf
  omega

/-- What can be asked of a robot that may change it: the calls of a script, and
what an engine says to it beside them. -/
inductive Request where
  /-- A script calls. -/
  | call (c : Call)
  /-- A turn is made. -/
  | turn (t : Turn)
  /-- A direction is looked up by its word. -/
  | relative (word : String)
  /-- A neighbour is looked up by its word. -/
  | neighbour (word : String)
  /-- A line is written. -/
  | note (message : String)
  deriving DecidableEq, Repr

/-- The robot after a request. -/
def request (r : Robot) : Request → Robot
  | .call c => (r.answer c).1
  | .turn t => (r.turn t).1
  | .relative word => (r.relativeNamed word).1
  | .neighbour word => (r.neighbourNamed word).1
  | .note message => r.note message

/-- The robot after requests, one after the other. -/
def requestAll (r : Robot) (requests : List Request) : Robot :=
  requests.foldl request r

theorem acts_request (r : Robot) (one : Request) : Acts r (r.request one) := by
  cases one with
  | call c => exact acts_answer r c
  | turn t => exact acts_turn r t
  | relative word => exact acts_relativeNamed r word
  | neighbour word => exact acts_neighbourNamed r word
  | note message => exact acts_note r message

theorem acts_requestAll (r : Robot) (requests : List Request) : Acts r (r.requestAll requests) := by
  induction requests generalizing r with
  | nil => exact .refl
  | cons one rest ih => exact (acts_request r one).trans (ih _)

/-- Whatever is asked of a robot, and in whatever order, its memory is the
history of its walk: the cell where it began and the cells of its moves, as the
trace tells them. The counts add up to one and the moves. -/
theorem requestAll_remembers (grid : Grid) (start goal : Coord) (maxSteps : UInt32)
    (requests : List Request) :
    let r := (init grid start goal maxSteps).requestAll requests
    r.visits.Remembers (start :: (r.trace.toList.filter (·.kind == .move)).map (·.position)) ∧
      (r.visits.cells.map (·.count.toNat)).sum = 1 + r.trace.countOf .move := by
  intro r
  have hacts : Acts (init grid start goal maxSteps) r := acts_requestAll _ requests
  have hrecalls : Recalls start r := hacts.keep Action.recalls (recalls_init _ _ _ _)
  have hcounted : Counted r := hacts.keep Action.counted (counted_init _ _ _ _)
  have hremembers := hrecalls.remembers hcounted
  exact ⟨hremembers, hremembers.total.trans (Trace.length_walkFrom _ _)⟩

end Robot

end MazeRobot

import MazeRobot.Proofs.Grid

/-!
# Grids and their codes

Rows of codes make a grid exactly if there is something in the first row, all
rows are as long as that one and no code is above three; otherwise the defect
that is reported is the first one met in reading order. A grid that was read
gives its codes back. Looking a coordinate up finds the cell of the code that
stands there, and the start is the first start cell in reading order: with the
rows laid one behind the other, the cell of column `x` in row `y` has the
number `y * width + x`, and cells come in the order of their numbers. Cut into
pieces as long as a row they are the rows again.
-/

namespace MazeRobot

namespace Cell

/-- The codes above three stand for no cell. -/
theorem ofCode?_eq_none_iff (code : UInt8) : ofCode? code = none ↔ 3 < code := by
  unfold ofCode?
  split
  · next h => subst h; decide
  split
  · next h => subst h; decide
  split
  · next h => subst h; decide
  split
  · next h => subst h; decide
  next h0 h1 h2 h3 =>
  have hlt : 3 < code := by
    rw [UInt8.lt_iff_toNat_lt]
    rw [← UInt8.toNat_inj] at h0 h1 h2 h3
    have e0 : (0 : UInt8).toNat = 0 := rfl
    have e1 : (1 : UInt8).toNat = 1 := rfl
    have e2 : (2 : UInt8).toNat = 2 := rfl
    have e3 : (3 : UInt8).toNat = 3 := rfl
    omega
  exact ⟨fun _ => hlt, fun _ => rfl⟩

/-- All others do. -/
theorem exists_cell_of_le {code : UInt8} (h : code ≤ 3) : ∃ cell, ofCode? code = some cell := by
  cases hcell : ofCode? code with
  | none => exact absurd ((ofCode?_eq_none_iff code).mp hcell) (UInt8.not_lt.mpr h)
  | some cell => exact ⟨cell, rfl⟩

theorem code_le (cell : Cell) : cell.code ≤ 3 := by
  cases cell <;> decide

theorem code_inj {cell other : Cell} (h : cell.code = other.code) : cell = other := by
  have hcell := ofCode?_code cell
  rw [h, ofCode?_code] at hcell
  exact (Option.some.inj hcell).symm

theorem isWall_iff (cell : Cell) : cell.isWall = true ↔ cell.code = 1 := by
  cases cell <;> decide

end Cell

namespace Grid

/-! ### Rows of codes -/

/-- A row of codes that has a length and stands for cells only. -/
def Fits (width : Nat) (row : List UInt8) : Prop :=
  row.length = width ∧ ∀ code ∈ row, code ≤ 3

/-- The width that rows of codes ask for: the length of the first one. -/
def widthOf (codes : List (List UInt8)) : Nat :=
  (codes.headD []).length

/-- Rows of codes that make a grid: there is something in the first row, and all
rows fit to it. -/
def Legible (codes : List (List UInt8)) : Prop :=
  0 < widthOf codes ∧ ∀ row ∈ codes, Fits (widthOf codes) row

/-- The first defect of the row with number `y`: its length goes before its cells,
and these go from left to right. -/
inductive RowDefect (width y : Nat) (row : List UInt8) : GridDefect → Prop where
  /-- It is too long or too short, whatever it holds. -/
  | ragged (unequal : row.length ≠ width) : RowDefect width y row (.ragged y width row.length)
  /-- Behind codes of cells comes another code. -/
  | unknownCell {left right : List UInt8} {code : UInt8} (equal : row.length = width)
      (split : row = left ++ code :: right) (known : ∀ c ∈ left, c ≤ 3) (unknown : 3 < code) :
      RowDefect width y row (.unknownCell code left.length y)

/-- The first defect of rows of codes, the rows in their order. -/
inductive FirstDefect (codes : List (List UInt8)) : GridDefect → Prop where
  /-- There is no row, or nothing in the first one. -/
  | empty (nothing : widthOf codes = 0) : FirstDefect codes .empty
  /-- Behind rows that fit comes one with a defect. -/
  | row {before after : List (List UInt8)} {row : List UInt8} {d : GridDefect}
      (something : 0 < widthOf codes) (split : codes = before ++ row :: after)
      (fit : ∀ earlier ∈ before, Fits (widthOf codes) earlier)
      (defect : RowDefect (widthOf codes) before.length row d) : FirstDefect codes d

/-- A row is read back from the codes of its cells. -/
theorem readRow_code (y x : Nat) (row : List Cell) :
    readRow y x (row.map Cell.code) = .ok row := by
  induction row generalizing x with
  | nil => rfl
  | cons cell rest ih => simp only [List.map_cons, readRow, Cell.ofCode?_code, ih]

/-- A row that is read well holds the codes of its cells. -/
theorem map_code_of_readRow {y x : Nat} {row : List UInt8} {cells : List Cell}
    (h : readRow y x row = .ok cells) : cells.map Cell.code = row := by
  induction row generalizing x cells with
  | nil => cases h; rfl
  | cons code rest ih =>
    rw [readRow] at h
    split at h
    · cases h
    next cell hcell =>
    split at h
    · cases h
    next later hlater =>
    cases h
    rw [List.map_cons, ih hlater, Cell.code_of_ofCode? hcell]

/-- Behind codes of cells, a code that stands for none is the defect of a row. -/
theorem readRow_of_unknown {left : List UInt8} {code : UInt8} (known : ∀ c ∈ left, c ≤ 3)
    (unknown : 3 < code) (y x : Nat) (right : List UInt8) :
    readRow y x (left ++ code :: right) = .error (.unknownCell code (x + left.length) y) := by
  induction left generalizing x with
  | nil =>
    rw [List.nil_append, readRow, (Cell.ofCode?_eq_none_iff code).mpr unknown]
    rfl
  | cons c left ih =>
    obtain ⟨hc, hleft⟩ := List.forall_mem_cons.mp known
    obtain ⟨cell, hcell⟩ := Cell.exists_cell_of_le hc
    rw [List.cons_append, readRow, hcell, ih hleft, List.length_cons, Nat.add_right_comm,
      Nat.add_assoc]

/-- A row that is not read well has such a code. -/
theorem unknown_of_readRow {y x : Nat} {row : List UInt8} {d : GridDefect}
    (h : readRow y x row = .error d) :
    ∃ left code right, row = left ++ code :: right ∧ (∀ c ∈ left, c ≤ 3) ∧ 3 < code ∧
      d = .unknownCell code (x + left.length) y := by
  induction row generalizing x with
  | nil => cases h
  | cons first rest ih =>
    rw [readRow] at h
    split at h
    · next hfirst =>
      cases h
      exact ⟨[], first, rest, rfl, List.forall_mem_nil _, (Cell.ofCode?_eq_none_iff first).mp hfirst,
        rfl⟩
    next cell hfirst =>
    split at h
    · next hrest =>
      cases h
      obtain ⟨left, code, right, rfl, hleft, hcode, rfl⟩ := ih hrest
      have hle : first ≤ 3 := Cell.code_of_ofCode? hfirst ▸ cell.code_le
      refine ⟨first :: left, code, right, rfl, List.forall_mem_cons.mpr ⟨hle, hleft⟩, hcode, ?_⟩
      rw [List.length_cons, Nat.add_right_comm, Nat.add_assoc]
    · cases h

/-- Rows of one length are read back from the codes of their cells. -/
theorem readRows_code {width : Nat} (y : Nat) {rows : List (List Cell)}
    (h : ∀ row ∈ rows, row.length = width) :
    readRows width y (rows.map (·.map Cell.code)) = .ok rows := by
  induction rows generalizing y with
  | nil => rfl
  | cons row rest ih =>
    obtain ⟨hrow, hrest⟩ := List.forall_mem_cons.mp h
    rw [List.map_cons, readRows, if_neg (by rw [List.length_map]; exact not_not_intro hrow),
      readRow_code, ih _ hrest]

/-- Rows that are read well hold the codes of their cells. -/
theorem map_code_of_readRows {width y : Nat} {codes : List (List UInt8)}
    {rows : List (List Cell)} (h : readRows width y codes = .ok rows) :
    rows.map (·.map Cell.code) = codes := by
  induction codes generalizing y rows with
  | nil => cases h; rfl
  | cons first rest ih =>
    rw [readRows] at h
    split at h
    · cases h
    split at h
    · cases h
    next row hrow =>
    split at h
    · cases h
    next more hmore =>
    cases h
    rw [List.map_cons, ih hmore, map_code_of_readRow hrow]

/-- A row that fits is read well. -/
theorem exists_readRow {width : Nat} {row : List UInt8} (fits : Fits width row) (y x : Nat) :
    ∃ cells, readRow y x row = .ok cells := by
  cases h : readRow y x row with
  | ok cells => exact ⟨cells, rfl⟩
  | error d =>
    obtain ⟨left, code, right, rfl, -, hcode, -⟩ := unknown_of_readRow h
    have hle := fits.2 code (List.mem_append_right _ List.mem_cons_self)
    exact absurd hcode (UInt8.not_lt.mpr hle)

/-- The defect of a row behind rows that fit is the defect of all of them. -/
theorem readRows_of_rowDefect {width y : Nat} {before : List (List UInt8)} {row : List UInt8}
    {d : GridDefect} (fit : ∀ earlier ∈ before, Fits width earlier)
    (defect : RowDefect width (y + before.length) row d) (after : List (List UInt8)) :
    readRows width y (before ++ row :: after) = .error d := by
  induction before generalizing y with
  | nil =>
    rw [List.nil_append, readRows]
    cases defect with
    | ragged unequal => rw [if_pos unequal]; rfl
    | unknownCell equal split known unknown =>
      rw [if_neg (not_not_intro equal), split, readRow_of_unknown known unknown, Nat.zero_add]
      rfl
  | cons earlier before ih =>
    obtain ⟨hearlier, hbefore⟩ := List.forall_mem_cons.mp fit
    obtain ⟨cells, hcells⟩ := exists_readRow hearlier y 0
    rw [List.length_cons, ← Nat.add_assoc, Nat.add_right_comm] at defect
    rw [List.cons_append, readRows, if_neg (not_not_intro hearlier.1), hcells, ih hbefore defect]

/-- A defect of rows is that of the first one that does not fit. -/
theorem rowDefect_of_readRows {width y : Nat} {codes : List (List UInt8)} {d : GridDefect}
    (h : readRows width y codes = .error d) :
    ∃ before row after, codes = before ++ row :: after ∧
      (∀ earlier ∈ before, Fits width earlier) ∧ RowDefect width (y + before.length) row d := by
  induction codes generalizing y with
  | nil => cases h
  | cons first rest ih =>
    rw [readRows] at h
    split at h
    · next hfirst =>
      cases h
      exact ⟨[], first, rest, rfl, List.forall_mem_nil _, .ragged hfirst⟩
    next hfirst =>
    have equal : first.length = width := Decidable.not_not.mp hfirst
    split at h
    · next hrow =>
      cases h
      obtain ⟨left, code, right, hsplit, hleft, hcode, rfl⟩ := unknown_of_readRow hrow
      rw [Nat.zero_add]
      exact ⟨[], first, rest, rfl, List.forall_mem_nil _, .unknownCell equal hsplit hleft hcode⟩
    next row hrow =>
    split at h
    · next hrest =>
      cases h
      obtain ⟨before, found, after, rfl, hbefore, hdefect⟩ := ih hrest
      have hfits : Fits width first := by
        refine ⟨equal, ?_⟩
        rw [← map_code_of_readRow hrow]
        exact List.forall_mem_map.mpr fun cell _ => cell.code_le
      refine ⟨first :: before, found, after, rfl, List.forall_mem_cons.mpr ⟨hfits, hbefore⟩, ?_⟩
      rw [List.length_cons, ← Nat.add_assoc, Nat.add_right_comm]
      exact hdefect
    · cases h

/-- Rows of codes that read well make the grid of their cells. -/
theorem ofCodes_of_readRows {first : List UInt8} {rest : List (List UInt8)}
    {rows : List (List Cell)} (hne : first.length ≠ 0)
    (h : readRows first.length 0 (first :: rest) = .ok rows) :
    ∃ g, ofCodes (first :: rest) = .ok g ∧ g.rows = rows ∧ g.width = first.length := by
  simp only [ofCodes, dif_neg hne]
  split
  · next hr => rw [h] at hr; cases hr
  · next hr =>
    rw [h] at hr
    cases hr
    exact ⟨_, rfl, rfl, rfl⟩

/-- A defect of the rows is that of the grid. -/
theorem ofCodes_of_rowDefect {first : List UInt8} {rest : List (List UInt8)} {d : GridDefect}
    (hne : first.length ≠ 0) (h : readRows first.length 0 (first :: rest) = .error d) :
    ofCodes (first :: rest) = .error d := by
  simp only [ofCodes, dif_neg hne]
  split
  · next hr =>
    rw [h] at hr
    cases hr
    rfl
  · next hr => rw [h] at hr; cases hr

/-- A grid is read back from its codes. -/
theorem ofCodes_toCodes (g : Grid) : ofCodes g.toCodes = .ok g := by
  obtain ⟨rows, width, hne, hpos, hrect⟩ := g
  cases rows with
  | nil => exact absurd rfl hne
  | cons first rest =>
    have hfirst : (first.map Cell.code).length = width := by
      rw [List.length_map]
      exact hrect first List.mem_cons_self
    have hread := readRows_code 0 hrect
    rw [← hfirst, List.map_cons] at hread
    obtain ⟨⟨_, _, _, _, _⟩, hg, hrows, hwidth⟩ :=
      ofCodes_of_readRows (by rw [hfirst]; exact Nat.ne_of_gt hpos) hread
    cases hrows
    cases hwidth.trans hfirst
    exact hg

/-- A grid that was read gives its codes back. -/
theorem toCodes_of_ofCodes {codes : List (List UInt8)} {g : Grid} (h : ofCodes codes = .ok g) :
    g.toCodes = codes := by
  cases codes with
  | nil => cases h
  | cons first rest =>
    by_cases hne : first.length = 0
    · rw [ofCodes, dif_pos hne] at h
      cases h
    · cases hread : readRows first.length 0 (first :: rest) with
      | error d =>
        rw [ofCodes_of_rowDefect hne hread] at h
        cases h
      | ok rows =>
        obtain ⟨found, hfound, hrows, -⟩ := ofCodes_of_readRows hne hread
        rw [hfound] at h
        cases h
        rw [toCodes, hrows]
        exact map_code_of_readRows hread

/-- Rows of codes have a defect if there is nothing in the first one, or if one of
them has. -/
theorem ofCodes_eq_error_iff {codes : List (List UInt8)} {d : GridDefect} :
    ofCodes codes = .error d ↔
      widthOf codes = 0 ∧ .empty = d ∨
        0 < widthOf codes ∧ readRows (widthOf codes) 0 codes = .error d := by
  cases codes with
  | nil => simp [ofCodes, widthOf]
  | cons first rest =>
    have hwidth : widthOf (first :: rest) = first.length := rfl
    rw [hwidth]
    by_cases hne : first.length = 0
    · simp [ofCodes, hne]
    · have hpos := Nat.pos_of_ne_zero hne
      cases hread : readRows first.length 0 (first :: rest) with
      | error defect => simp [ofCodes_of_rowDefect hne hread, hne, hpos]
      | ok rows =>
        obtain ⟨g, hg, -⟩ := ofCodes_of_readRows hne hread
        simp [hg, hne]

/-- The defect that is reported is the first one. -/
theorem ofCodes_eq_error_iff_firstDefect {codes : List (List UInt8)} {d : GridDefect} :
    ofCodes codes = .error d ↔ FirstDefect codes d := by
  rw [ofCodes_eq_error_iff]
  constructor
  · rintro (⟨hnothing, rfl⟩ | ⟨hsome, hread⟩)
    · exact .empty hnothing
    · obtain ⟨before, row, after, hsplit, hfit, hdefect⟩ := rowDefect_of_readRows hread
      rw [Nat.zero_add] at hdefect
      exact .row hsome hsplit hfit hdefect
  · intro h
    cases h with
    | empty hnothing => exact .inl ⟨hnothing, rfl⟩
    | @row before after row _ hsome hsplit hfit hdefect =>
      rw [← Nat.zero_add before.length] at hdefect
      refine .inr ⟨hsome, ?_⟩
      have hread := readRows_of_rowDefect hfit hdefect after
      rwa [← hsplit] at hread

/-- The codes of a grid are legible. -/
theorem legible_toCodes (g : Grid) : Legible g.toCodes := by
  obtain ⟨rows, width, hne, hpos, hrect⟩ := g
  have hwidth : widthOf (rows.map (·.map Cell.code)) = width := by
    cases rows with
    | nil => exact absurd rfl hne
    | cons first rest => exact (List.length_map Cell.code).trans (hrect first List.mem_cons_self)
  rw [toCodes, Legible, hwidth]
  refine ⟨hpos, List.forall_mem_map.mpr fun row hrow => ⟨?_, ?_⟩⟩
  · rw [List.length_map, hrect row hrow]
  · exact List.forall_mem_map.mpr fun cell _ => cell.code_le

/-- Rows of codes make a grid exactly if they are legible. -/
theorem exists_ofCodes_iff {codes : List (List UInt8)} :
    (∃ g, ofCodes codes = .ok g) ↔ Legible codes := by
  constructor
  · rintro ⟨g, hg⟩
    obtain rfl := toCodes_of_ofCodes hg
    exact legible_toCodes g
  · rintro ⟨hsome, hfits⟩
    cases h : ofCodes codes with
    | ok g => exact ⟨g, rfl⟩
    | error d =>
      cases ofCodes_eq_error_iff_firstDefect.mp h with
      | empty hnothing => exact absurd hnothing (Nat.ne_of_gt hsome)
      | @row before after row _ _ hsplit _ hdefect =>
        obtain ⟨hlength, hcodes⟩ := hfits row (by rw [hsplit]; simp)
        cases hdefect with
        | ragged hne => exact absurd hlength hne
        | unknownCell _ hrow _ hcode =>
          exact absurd hcode (UInt8.not_lt.mpr (hcodes _ (by rw [hrow]; simp)))

/-! ### Looking codes up -/

/-- A code stands at a coordinate: the row of its number holds it at the number of
its column. -/
def CodeAt (codes : List (List UInt8)) (c : Coord) (code : UInt8) : Prop :=
  ∃ x y : Nat, c.x.toInt = x ∧ c.y.toInt = y ∧
    ∃ row, codes[y]? = some row ∧ row[x]? = some code

/-- The cell of a coordinate is the one of its row and column. -/
theorem cell?_eq_some_iff {g : Grid} {c : Coord} {cell : Cell} :
    g.cell? c = some cell ↔
      ∃ x y : Nat, c.x.toInt = x ∧ c.y.toInt = y ∧
        ∃ row, g.rows[y]? = some row ∧ row[x]? = some cell := by
  constructor
  · intro h
    have hb := inBounds_of_cell? h
    obtain ⟨⟨hx, -⟩, hy, -⟩ := (inBounds_iff g c).mp hb
    rw [cell?, if_pos hb] at h
    exact ⟨_, _, (Int.toNat_of_nonneg hx).symm, (Int.toNat_of_nonneg hy).symm,
      Option.bind_eq_some_iff.mp h⟩
  · rintro ⟨x, y, hx, hy, row, hrow, hcell⟩
    obtain ⟨hylt, rfl⟩ := List.getElem?_eq_some_iff.mp hrow
    obtain ⟨hxlt, -⟩ := List.getElem?_eq_some_iff.mp hcell
    have hwidth := g.rectangular _ (List.getElem_mem hylt)
    have hb : g.inBounds c = true := by
      rw [inBounds_iff, height]
      omega
    rw [cell?, if_pos hb, hx, hy, Int.toNat_natCast, Int.toNat_natCast, hrow]
    exact hcell

/-- What stands at a coordinate among the codes of a grid is the code of its cell. -/
theorem codeAt_toCodes_iff {g : Grid} {c : Coord} {code : UInt8} :
    CodeAt g.toCodes c code ↔ ∃ cell, g.cell? c = some cell ∧ cell.code = code := by
  simp only [CodeAt, cell?_eq_some_iff, toCodes, List.getElem?_map, Option.map_eq_some_iff]
  constructor
  · rintro ⟨x, y, hx, hy, _, ⟨row, hrow, rfl⟩, hcode⟩
    rw [List.getElem?_map, Option.map_eq_some_iff] at hcode
    obtain ⟨cell, hcell, rfl⟩ := hcode
    exact ⟨cell, ⟨x, y, hx, hy, row, hrow, hcell⟩, rfl⟩
  · rintro ⟨cell, ⟨x, y, hx, hy, row, hrow, hcell⟩, rfl⟩
    exact ⟨x, y, hx, hy, _, ⟨row, hrow, rfl⟩, by rw [List.getElem?_map, hcell]; rfl⟩

/-! ### Rows one behind the other -/

/-- All cells of a grid, the rows one behind the other. -/
def cells (g : Grid) : List Cell :=
  g.rows.flatten

/-- Where the cell of a coordinate in bounds stands among all cells. -/
def number (g : Grid) (c : Coord) : Nat :=
  c.y.toInt.toNat * g.width + c.x.toInt.toNat

/-- Lists of one length, laid one behind the other. -/
theorem getElem?_flatten {α : Type} {width x : Nat} {rows : List (List α)}
    (h : ∀ row ∈ rows, row.length = width) (hx : x < width) (y : Nat) :
    rows.flatten[y * width + x]? = rows[y]?.bind (·[x]?) := by
  induction rows generalizing y with
  | nil => rfl
  | cons row rest ih =>
    obtain ⟨hrow, hrest⟩ := List.forall_mem_cons.mp h
    rw [List.flatten_cons]
    cases y with
    | zero =>
      rw [Nat.zero_mul, Nat.zero_add, List.getElem?_append_left (by omega)]
      rfl
    | succ y =>
      rw [List.getElem?_append_right (by rw [Nat.succ_mul]; omega), List.getElem?_cons_succ,
        ← ih hrest y]
      congr 1
      rw [Nat.succ_mul]
      omega

/-- The cell of a coordinate in bounds is the one of its number. -/
theorem cell?_eq_getElem?_cells {g : Grid} {c : Coord} (h : g.inBounds c = true) :
    g.cell? c = g.cells[g.number c]? := by
  obtain ⟨⟨-, hx⟩, -⟩ := (inBounds_iff g c).mp h
  have hpos := g.width_pos
  rw [cell?, if_pos h, cells, number, getElem?_flatten g.rectangular (by omega)]

/-- The row of a coordinate in bounds, from its number. -/
theorem number_div {g : Grid} {c : Coord} (h : g.inBounds c = true) :
    g.number c / g.width = c.y.toInt.toNat := by
  obtain ⟨⟨-, hx⟩, -⟩ := (inBounds_iff g c).mp h
  have hpos := g.width_pos
  rw [number, Nat.mul_comm, Nat.mul_add_div hpos, Nat.div_eq_of_lt (by omega), Nat.add_zero]

/-- A number is that of the column and row that division by the width gives. -/
theorem getElem?_cells (g : Grid) (i : Nat) :
    g.cells[i]? = g.rows[i / g.width]?.bind (·[i % g.width]?) := by
  rw [← getElem?_flatten g.rectangular (Nat.mod_lt i g.width_pos), Nat.div_add_mod', cells]

/-- A list in pieces of one length, of which the last may be shorter. -/
def pieces {α : Type} (width : Nat) : List α → List (List α)
  | [] => []
  | first :: rest =>
    (first :: rest.take (width - 1)) :: pieces width (rest.drop (width - 1))
termination_by list => list.length
decreasing_by
  rw [List.length_drop, List.length_cons]
  omega

/-- Lists of one length, laid one behind the other and cut into pieces of that length,
are the same lists again. -/
theorem pieces_flatten {α : Type} {width : Nat} {rows : List (List α)} (hpos : 0 < width)
    (h : ∀ row ∈ rows, row.length = width) : pieces width rows.flatten = rows := by
  induction rows with
  | nil => rw [List.flatten_nil, pieces]
  | cons row rest ih =>
    obtain ⟨hrow, hrest⟩ := List.forall_mem_cons.mp h
    cases row with
    | nil => exact absurd hrow (Nat.ne_of_lt hpos)
    | cons first more =>
      have hmore : more.length = width - 1 := Nat.eq_sub_of_add_eq hrow
      rw [List.flatten_cons, List.cons_append, pieces, ← hmore, List.take_left, List.drop_left,
        ih hrest]

/-- There are as many cells as the rectangle is large. -/
theorem length_cells (g : Grid) : g.cells.length = g.height * g.width := by
  have hlengths : g.rows.map List.length = List.replicate g.height g.width :=
    List.eq_replicate_iff.mpr ⟨List.length_map _, List.forall_mem_map.mpr g.rectangular⟩
  rw [cells, List.length_flatten, hlengths, List.sum_replicate_nat]

/-- The rows are the pieces of all cells that are as long as a row. -/
theorem pieces_cells (g : Grid) : pieces g.width g.cells = g.rows :=
  pieces_flatten g.width_pos g.rectangular

/-- The codes of a grid are those of the pieces of all its cells. -/
theorem toCodes_eq_pieces (g : Grid) :
    g.toCodes = (pieces g.width g.cells).map (·.map Cell.code) := by
  rw [pieces_cells, toCodes]

/-- All cells of a grid that was read are those of all codes, one after the other. -/
theorem map_code_cells_of_ofCodes {codes : List (List UInt8)} {g : Grid}
    (h : ofCodes codes = .ok g) : g.cells.map Cell.code = codes.flatten := by
  rw [← toCodes_of_ofCodes h, toCodes, cells, List.map_flatten]

/-- The start that rows give is their first start cell, by its number. -/
theorem startFrom_eq {width y : Nat} {rows : List (List Cell)} (hpos : 0 < width)
    (h : ∀ row ∈ rows, row.length = width) :
    startFrom y rows = (rows.flatten.findIdx? (· == Cell.start)).map fun i =>
      ⟨Int32.ofNat (i % width), Int32.ofNat (y + i / width)⟩ := by
  induction rows generalizing y with
  | nil => rfl
  | cons row rest ih =>
    obtain ⟨hrow, hrest⟩ := List.forall_mem_cons.mp h
    rw [startFrom, List.flatten_cons, List.findIdx?_append]
    cases hfound : row.findIdx? (· == Cell.start) with
    | some x =>
      obtain ⟨hx, -⟩ := List.findIdx?_eq_some_iff_getElem.mp hfound
      rw [hrow] at hx
      simp [Nat.mod_eq_of_lt hx, Nat.div_eq_of_lt hx]
    | none =>
      rw [ih hrest, Option.none_or, Option.map_map]
      -- The cells of the first row come before all others, so their numbers are the first.
      refine Option.map_congr fun i _ => ?_
      simp only [Function.comp_apply, hrow, Nat.add_mod_right, Nat.add_div_right i hpos]
      rw [Nat.add_right_comm, Nat.add_assoc]

/-- Where a robot begins is the first start cell of all cells. -/
theorem findStart_eq (g : Grid) :
    g.findStart =
      match g.cells.findIdx? (· == Cell.start) with
      | some i => .ok ⟨Int32.ofNat (i % g.width), Int32.ofNat (i / g.width)⟩
      | none => .error .noStart := by
  rw [findStart, startFrom_eq g.width_pos g.rectangular, cells]
  cases g.rows.flatten.findIdx? (· == Cell.start) with
  | none => rfl
  | some i => simp only [Option.map_some, Nat.zero_add]

/-- A grid has no start exactly if no code is that of a start cell. -/
theorem findStart_eq_error_iff {g : Grid} {d : GridDefect} :
    g.findStart = .error d ↔ d = .noStart ∧ ∀ row ∈ g.toCodes, 2 ∉ row := by
  have hcodes : (∀ row ∈ g.toCodes, 2 ∉ row) ↔ g.cells.findIdx? (· == Cell.start) = none := by
    rw [List.findIdx?_eq_none_iff]
    constructor
    · intro h cell hcell
      obtain ⟨row, hrow, hmem⟩ := List.mem_flatten.mp hcell
      refine beq_false_of_ne ?_
      rintro rfl
      exact h _ (List.mem_map_of_mem hrow) (List.mem_map_of_mem hmem)
    · intro h
      refine List.forall_mem_map.mpr fun row hrow htwo => ?_
      obtain ⟨cell, hcell, hcode⟩ := List.mem_map.mp htwo
      obtain rfl : cell = .start := Cell.code_inj hcode
      exact ne_of_beq_false (h .start (List.mem_flatten.mpr ⟨row, hrow, hcell⟩)) rfl
  rw [hcodes, findStart_eq]
  cases g.cells.findIdx? (· == Cell.start) with
  | none => simp [eq_comm]
  | some i => simp

end Grid

namespace Coord

/-- One cell comes before another one in reading order, or is the other one. -/
def AtOrBefore (c d : Coord) : Prop :=
  c.y.toInt < d.y.toInt ∨ c.y.toInt = d.y.toInt ∧ c.x.toInt ≤ d.x.toInt

theorem AtOrBefore.antisymm {c d : Coord} (h : c.AtOrBefore d) (h' : d.AtOrBefore c) : c = d := by
  unfold AtOrBefore at h h'
  have hx : c.x = d.x := Int32.toInt_inj.mp (by omega)
  have hy : c.y = d.y := Int32.toInt_inj.mp (by omega)
  cases c
  cases d
  simp only at hx hy
  rw [hx, hy]

end Coord

namespace Grid

/-- In a grid whose sides fit into a coordinate, the start comes before all other start
cells in reading order. -/
theorem atOrBefore_of_findStart {g : Grid} (ha : g.Addressable) {c d : Coord}
    (h : g.findStart = .ok c) (hd : g.cell? d = some .start) : c.AtOrBefore d := by
  rw [findStart_eq] at h
  split at h
  · next i hi =>
    obtain ⟨hlt, hstart, hfirst⟩ := List.findIdx?_eq_some_iff_getElem.mp hi
    obtain rfl := Except.ok.inj h
    have hrow : i / g.width < g.height := by
      have hcell := List.getElem?_eq_getElem hlt
      rw [getElem?_cells] at hcell
      obtain ⟨row, hrow, -⟩ := Option.bind_eq_some_iff.mp hcell
      exact (List.getElem?_eq_some_iff.mp hrow).1
    have hcolumn : i % g.width < g.width := Nat.mod_lt i g.width_pos
    obtain ⟨hw, hh⟩ := ha
    rw [Int32.toInt_maxValue] at hw hh
    have hx : (Int32.ofNat (i % g.width)).toInt = (i % g.width : Nat) :=
      Int32.toInt_ofNat_of_lt (by omega)
    have hy : (Int32.ofNat (i / g.width)).toInt = (i / g.width : Nat) :=
      Int32.toInt_ofNat_of_lt (by omega)
    have hb := inBounds_of_cell? hd
    obtain ⟨⟨hdx, hdw⟩, hdy, -⟩ := (inBounds_iff g d).mp hb
    have hle : i ≤ g.number d := by
      refine Nat.not_lt.mp fun hearlier => hfirst _ hearlier ?_
      rw [cell?_eq_getElem?_cells hb] at hd
      rw [(List.getElem?_eq_some_iff.mp hd).2]
      rfl
    have hquotient := Nat.div_le_div_right (c := g.width) hle
    have hi := Nat.div_add_mod' i g.width
    rw [number_div hb] at hquotient
    rw [Coord.AtOrBefore, hx, hy]
    rcases Nat.lt_or_eq_of_le hquotient with hbefore | hsame
    · exact .inl (by omega)
    · rw [hsame] at hi
      rw [number] at hle
      exact .inr ⟨by omega, by omega⟩
  · cases h

/-- In a grid whose sides fit into a coordinate, the start is the first start cell in
reading order. -/
theorem findStart_eq_ok_iff {g : Grid} (ha : g.Addressable) {c : Coord} :
    g.findStart = .ok c ↔
      g.cell? c = some .start ∧ ∀ d, g.cell? d = some .start → c.AtOrBefore d := by
  constructor
  · intro h
    exact ⟨cell?_of_findStart ha h, fun d hd => atOrBefore_of_findStart ha h hd⟩
  · rintro ⟨hcell, hfirst⟩
    cases h : g.findStart with
    | ok found =>
      have hfound := hfirst found (cell?_of_findStart ha h)
      rw [(atOrBefore_of_findStart ha h hcell).antisymm hfound]
    | error d =>
      obtain ⟨x, y, -, -, row, hrow, hstart⟩ := codeAt_toCodes_iff.mpr ⟨_, hcell, rfl⟩
      have hnone := (findStart_eq_error_iff.mp h).2 row (List.mem_of_getElem? hrow)
      exact absurd (List.mem_of_getElem? hstart) hnone

/-- A grid is what rows of codes tell. -/
structure Depicts (g : Grid) (codes : List (List UInt8)) : Prop where
  /-- It has as many rows. -/
  height : codes.length = g.height
  /-- All rows are as long as its width. -/
  width : ∀ row ∈ codes, row.length = g.width
  /-- It gives the codes back. -/
  toCodes : g.toCodes = codes
  /-- Its cells are those of the codes, each at its coordinate. -/
  cell : ∀ (c : Coord) (cell : Cell), g.cell? c = some cell ↔ CodeAt codes c cell.code
  /-- There are cells in the rectangle and nowhere else. -/
  bounds : ∀ c : Coord, (∃ cell, g.cell? c = some cell) ↔
    (0 ≤ c.x.toInt ∧ c.x.toInt < g.width) ∧ (0 ≤ c.y.toInt ∧ c.y.toInt < g.height)
  /-- A robot can stand wherever there is a code that is not the one of a wall. -/
  passable : ∀ c : Coord, g.isPassable c = true ↔ ∃ code, CodeAt codes c code ∧ code ≠ 1
  /-- There is no start exactly if no code is that of a start cell. -/
  startless : ∀ d, g.findStart = .error d ↔ d = .noStart ∧ ∀ row ∈ codes, 2 ∉ row
  /-- The start is where the first of those codes stands in reading order, as long as
  the sides fit into a coordinate. -/
  start : g.Addressable → ∀ c : Coord, g.findStart = .ok c ↔
    CodeAt codes c 2 ∧ ∀ d : Coord, CodeAt codes d 2 → c.AtOrBefore d

/-- A grid is what its codes tell. -/
theorem depicts_toCodes (g : Grid) : g.Depicts g.toCodes := by
  have hcell (c : Coord) (cell : Cell) : g.cell? c = some cell ↔ CodeAt g.toCodes c cell.code := by
    rw [codeAt_toCodes_iff]
    constructor
    · exact fun h => ⟨cell, h, rfl⟩
    · rintro ⟨other, hother, hsame⟩
      rwa [← Cell.code_inj hsame]
  refine ⟨List.length_map _, fun row hrow => ?_, rfl, hcell, fun c => ?_, fun c => ?_,
    fun d => findStart_eq_error_iff, fun ha c => ?_⟩
  · obtain ⟨cells, hcells, rfl⟩ := List.mem_map.mp hrow
    rw [List.length_map, g.rectangular cells hcells]
  · rw [← inBounds_iff]
    exact ⟨fun ⟨_, h⟩ => inBounds_of_cell? h, exists_cell_of_inBounds⟩
  · simp only [codeAt_toCodes_iff, isPassable, Option.any_eq_true, Bool.not_eq_true',
      ← Bool.not_eq_true, Cell.isWall_iff]
    constructor
    · rintro ⟨cell, hsome, hwall⟩
      exact ⟨_, ⟨cell, hsome, rfl⟩, hwall⟩
    · rintro ⟨_, ⟨cell, hsome, rfl⟩, hwall⟩
      exact ⟨cell, hsome, hwall⟩
  · rw [findStart_eq_ok_iff ha]
    exact and_congr (hcell c .start) (forall_congr' fun d => imp_congr_left (hcell d .start))

/-- Rows of codes make a grid exactly if they are legible, and otherwise their first
defect in reading order is reported. The grid that they make is what they tell, and a
grid is read back from its codes. -/
theorem ofCodes_faithful (codes : List (List UInt8)) :
    ((∃ g, ofCodes codes = .ok g) ↔ Legible codes) ∧
      (∀ d, ofCodes codes = .error d ↔ FirstDefect codes d) ∧
      (∀ g, ofCodes codes = .ok g → g.Depicts codes) ∧
      ∀ g : Grid, ofCodes g.toCodes = .ok g := by
  refine ⟨exists_ofCodes_iff, fun d => ofCodes_eq_error_iff_firstDefect, fun g hg => ?_,
    ofCodes_toCodes⟩
  rw [← toCodes_of_ofCodes hg]
  exact depicts_toCodes g

/-- A grid with two start cells. -/
def twoStarts : Grid where
  rows := [[.empty, .wall, .start], [.start, .empty, .goalMarker]]
  width := 3
  rows_ne_nil := List.cons_ne_nil _ _
  width_pos := Nat.zero_lt_succ 2
  rectangular := List.forall_mem_cons.mpr ⟨rfl, List.forall_mem_singleton.mpr rfl⟩

/-- A robot begins at the start cell in the upper row, though the other one stands
further to the west. A code that stands for no cell is reported before the length of a
later row. -/
theorem ofCodes_faithful_twoStarts :
    ofCodes [[0, 1, 2], [2, 0, 3]] = .ok twoStarts ∧ twoStarts.Depicts [[0, 1, 2], [2, 0, 3]] ∧
      twoStarts.Addressable ∧ twoStarts.findStart = .ok ⟨2, 0⟩ ∧
      CodeAt [[0, 1, 2], [2, 0, 3]] ⟨0, 1⟩ 2 ∧ (⟨2, 0⟩ : Coord).AtOrBefore ⟨0, 1⟩ ∧
      ofCodes [[0, 4, 1], [2, 0]] = .error (.unknownCell 4 1 0) := by
  have hread : ofCodes [[0, 1, 2], [2, 0, 3]] = .ok twoStarts := ofCodes_toCodes twoStarts
  have hdepicts := (ofCodes_faithful [[0, 1, 2], [2, 0, 3]]).2.2.1 twoStarts hread
  have hfits : twoStarts.Addressable := by decide
  have hstart : twoStarts.findStart = .ok ⟨2, 0⟩ := rfl
  have hother : CodeAt [[0, 1, 2], [2, 0, 3]] ⟨0, 1⟩ 2 := ⟨0, 1, rfl, rfl, _, rfl, rfl⟩
  have hfirst := ((hdepicts.start hfits ⟨2, 0⟩).mp hstart).2 ⟨0, 1⟩ hother
  have hrow : RowDefect 3 0 [0, 4, 1] (.unknownCell 4 [(0 : UInt8)].length 0) :=
    .unknownCell rfl rfl (List.forall_mem_singleton.mpr (by decide)) (by decide)
  have hdefect : FirstDefect [[0, 4, 1], [2, 0]] (.unknownCell 4 1 0) :=
    .row (by decide) (List.nil_append _).symm (List.forall_mem_nil _) hrow
  exact ⟨hread, hdepicts, hfits, hstart, hother, hfirst,
    ((ofCodes_faithful [[0, 4, 1], [2, 0]]).2.1 _).mpr hdefect⟩

end Grid

end MazeRobot

import MazeRobot.Catalog
import MazeRobot.Proofs.Codes
import MazeRobot.Proofs.Places
import MazeRobot.Proofs.PlayOrder
import MazeRobot.Proofs.StoredReports

/-!
# Stored catalogs

A catalog that is written to a file is loaded as it was. Each puzzle is read
back whole: its grid from the codes of its cells, what it leaves out from a
null. What was fit to be played still is, wherever it stands among the others.
Putting puzzles into play order a second time moves none of them, so those that
are alike in place and difficulty come in the order they had.
-/

namespace MazeRobot

open Decoder (Reads reads_list reads_record reads_string reads_uint8 reads_uint32 reads_word)

namespace Grid

theorem reads_toJson (g : Grid) : Reads decode g.toJson g := by
  have hcodes : Reads (Decoder.list (Decoder.list Decoder.uint8)) g.toJson g.toCodes :=
    reads_list fun row _ => reads_list fun code _ => reads_uint8 code
  refine ⟨hcodes.small, ?_⟩
  rw [decode, hcodes.scan]
  simp only [ofCodes_toCodes]

end Grid

namespace Puzzle

/-- A value that may be absent is read back if it is never written as a null. -/
theorem reads_nullable {α : Type} {decode : Decoder α} {toJson : α → Json}
    (hread : ∀ a, Reads decode (toJson a) a) (hnull : ∀ a, (toJson a).scan ≠ .null)
    (a? : Option α) : Reads (Decoder.nullable decode) (nullable toJson a?) a? := by
  cases a? with
  | none => exact ⟨trivial, rfl⟩
  | some a =>
    refine ⟨(hread a).small, ?_⟩
    rw [nullable, Decoder.nullable.eq_2 _ _ (hnull a), (hread a).scan]

theorem reads_order (order : Option UInt32) :
    Reads (Decoder.nullable Decoder.uint32) (nullable (fun n => .number n.toNat) order) order :=
  reads_nullable reads_uint32 (fun _ => by simp [Json.scan]) order

theorem reads_note (text : Option String) :
    Reads (Decoder.nullable Decoder.string) (nullable .string text) text :=
  reads_nullable reads_string (fun _ => by simp [Json.scan]) text

theorem reads_toJson (p : Puzzle) : Reads decode p.toJson p :=
  reads_record
    (.cons rfl rfl (reads_string p.id) <| .cons rfl rfl (reads_string p.title) <|
      .cons rfl rfl (reads_string p.description) <|
      .cons rfl rfl (reads_word (Difficulty.ofTag?_tag p.difficulty)) <|
      .cons rfl rfl (reads_order p.order) <| .cons rfl rfl p.grid.reads_toJson <|
      .cons rfl rfl p.goal.reads_toJson <| .cons rfl rfl (reads_note p.hint) <|
      .cons rfl rfl (reads_note p.solution) <| .nil _)
    rfl

end Puzzle

namespace Catalog

/-- Puzzles in play order keep it, alike ones among them too. -/
theorem ofList_puzzles (puzzles : List Puzzle) :
    ofList (ofList puzzles).puzzles = ofList puzzles := by
  have hordered := List.pairwise_mergeSort precedes_trans precedes_total puzzles
  exact congrArg Catalog.mk (List.mergeSort_of_pairwise hordered)

/-- Puzzles are all fit to be played if each of them is. -/
theorem validateAll_eq_ok {puzzles : List Puzzle} (h : ∀ p ∈ puzzles, p.validate = .ok ()) :
    validateAll puzzles = .ok () := by
  induction puzzles with
  | nil => rfl
  | cons p rest ih =>
    obtain ⟨hp, hrest⟩ := List.forall_mem_cons.mp h
    rw [validateAll, hp]
    exact ih hrest

theorem reads_toJson (c : Catalog) :
    Reads (Decoder.list Puzzle.decode) c.toJson c.puzzles :=
  reads_list fun p _ => p.reads_toJson

/-- A text that is read as the puzzles of a catalog, all of them fit to be
played, is loaded as the catalog. -/
theorem ofFile_of_text {puzzles : List Puzzle} (h : ∀ p ∈ puzzles, p.validate = .ok ())
    {text : String}
    (hread : Decoder.text (Decoder.list Puzzle.decode) text = .ok (ofList puzzles).puzzles)
    (path : String) : ofFile path (.ok text) = .ok (ofList puzzles) := by
  have hvalid : validateAll (ofList puzzles).puzzles = .ok () :=
    validateAll_eq_ok fun p hp => h p (mem_ofList.mp hp)
  simp only [ofFile, hread, hvalid, ofList_puzzles]

/-- A catalog of puzzles that are fit to be played is loaded as it was from
every file it was written to, in either layout. -/
theorem ofFile_toJson {puzzles : List Puzzle} (h : ∀ p ∈ puzzles, p.validate = .ok ())
    {text : String} (htext : text = (ofList puzzles).toJson.compact ∨
      text = (ofList puzzles).toJson.pretty) (path : String) :
    ofFile path (.ok text) = .ok (ofList puzzles) ∧
      ∀ d d' : Disk, d.write path text = .ok d' →
        ofFile path (d'.read path) = .ok (ofList puzzles) := by
  have hread : Decoder.text (Decoder.list Puzzle.decode) text = .ok (ofList puzzles).puzzles := by
    rcases htext with rfl | rfl
    · exact (reads_toJson (ofList puzzles)).compact
    · exact (reads_toJson (ofList puzzles)).pretty
  have hload := ofFile_of_text h hread path
  refine ⟨hload, fun d d' hwrite => ?_⟩
  rw [Disk.read_write hwrite]
  exact hload

/-- A puzzle that shares its name, its place and its difficulty with others. -/
def twin (title : String) (hint : Option String) : Puzzle where
  id := "twin"
  title := title
  description := ""
  difficulty := .medium
  order := none
  grid := .crossing
  goal := ⟨2, 2⟩
  hint := hint
  solution := none

/-- Two puzzles that only differ in what is told about them. -/
def twins : List Puzzle :=
  [twin "Pollux" none, twin "Castor" (some "Go \"east\".")]

/-- Two puzzles that are alike in name, place and difficulty come back from a
disk in the order they had. -/
theorem ofFile_toJson_twins :
    (∀ p ∈ twins, p.validate = .ok ()) ∧ (ofList twins).puzzles = twins ∧
      ∃ d, Disk.empty.write "twins.json" (ofList twins).toJson.pretty = .ok d ∧
        ofFile "twins.json" (d.read "twins.json") = .ok (ofList twins) := by
  have hfit : ∀ p ∈ twins, p.validate = .ok () := by decide
  refine ⟨hfit, List.mergeSort_of_pairwise (by decide), _, rfl, ?_⟩
  exact (ofFile_toJson hfit (.inr rfl) "twins.json").2 Disk.empty _ rfl

end Catalog

end MazeRobot

import MazeRobot.Json.Tagged
import MazeRobot.Proofs.Reading

/-!
# Decoding what was encoded

A value of the domain is read back if the decoder for it takes the tree of what
is written for it to the value itself, and if every number in it is one that a
word can hold. Words, texts, lists and records are read back part by part: the
members of a record go into the draft one after the other, in the order in
which they are written. So a text in any layout that was written for the value
is read as the value.
-/

namespace MazeRobot.Decoder

open Json (Small SmallMembers SmallItems)

/-- A decoder reads a value back from what is written for it. -/
structure Reads {α : Type} (decode : Decoder α) (j : Json) (a : α) : Prop where
  /-- No number in it is too large. -/
  small : j.Small
  /-- Its tree is decoded as the value. -/
  scan : decode j.scan = .ok a

/-- A value is read back from every text that is written for it. -/
theorem Reads.text {α : Type} {decode : Decoder α} {j : Json} {a : α} (h : decode.Reads j a)
    {layout : Json.Layout} (hlayout : layout.Blank) (level : Nat) :
    Decoder.text decode (String.ofList (j.write layout level)) = .ok a :=
  (text_write decode hlayout level h.small).trans h.scan

theorem Reads.compact {α : Type} {decode : Decoder α} {j : Json} {a : α} (h : decode.Reads j a) :
    Decoder.text decode j.compact = .ok a :=
  h.text Json.Layout.blank_compact 1

theorem Reads.pretty {α : Type} {decode : Decoder α} {j : Json} {a : α} (h : decode.Reads j a) :
    Decoder.text decode j.pretty = .ok a :=
  h.text Json.Layout.blank_pretty 1

section Simple

theorem reads_bool (b : Bool) : Reads bool (.bool b) b :=
  ⟨trivial, rfl⟩

theorem reads_string (s : String) : Reads string (.string s) s :=
  ⟨trivial, rfl⟩

/-- An integer in its range that a word can hold. -/
theorem reads_intBetween {low high n : Int} (hlow : low ≤ n) (hhigh : n ≤ high)
    (hsmall : n.natAbs ≤ Scan.maxWord) : Reads (intBetween low high) (.number n) n :=
  ⟨hsmall, if_pos ⟨hlow, hhigh⟩⟩

theorem reads_uint8 (n : UInt8) : Reads uint8 (.number n.toNat) n := by
  have hlt : n.toNat < 256 := n.toNat_lt
  have hsmall : n.toNat ≤ Scan.maxWord := Nat.le_trans (Nat.le_of_lt hlt) (by decide)
  have hread : Reads (intBetween 0 255) (.number n.toNat) (n.toNat : Int) :=
    reads_intBetween (by omega) (by omega) hsmall
  refine ⟨hread.small, ?_⟩
  rw [uint8, hread.scan]
  exact congrArg Except.ok UInt8.ofNat_toNat

theorem reads_uint32 (n : UInt32) : Reads uint32 (.number n.toNat) n := by
  have hlt : n.toNat < 4294967296 := n.toNat_lt
  have hsmall : n.toNat ≤ Scan.maxWord := Nat.le_trans (Nat.le_of_lt hlt) (by decide)
  have hread : Reads (intBetween 0 4294967295) (.number n.toNat) (n.toNat : Int) :=
    reads_intBetween (by omega) (by omega) hsmall
  refine ⟨hread.small, ?_⟩
  rw [uint32, hread.scan]
  exact congrArg Except.ok UInt32.ofNat_toNat

theorem reads_int32 (n : Int32) : Reads int32 (.number n.toInt) n := by
  have hlow : -2147483648 ≤ n.toInt := n.le_toInt
  have hhigh : n.toInt ≤ 2147483647 := n.toInt_le
  have hbound : 2147483648 ≤ Scan.maxWord := by decide
  have hread := reads_intBetween hlow hhigh (by omega)
  refine ⟨hread.small, ?_⟩
  rw [int32, hread.scan]
  exact congrArg Except.ok (Int32.ofInt_toInt n)

/-- A word of a closed list is read back if its written form stands for it. -/
theorem reads_word {α : Type} {ofWord? : String → Option α} {tag : String} {a : α}
    (htag : ofWord? tag = some a) : Reads (word ofWord?) (.string tag) a := by
  refine ⟨trivial, ?_⟩
  rw [Json.scan, word, htag]

theorem reads_tagWord {α : Type} {ofWord? : String → Option α} {tag : String} {a : α}
    (htag : ofWord? tag = some a) : Reads (tagWord ofWord?) (.string tag) a := by
  refine ⟨trivial, ?_⟩
  simp only [tagWord, (reads_string tag).scan, htag]

theorem reads_keptWord {α : Type} {ofWord? : String → Option α} {tag : String} {a : α}
    (htag : ofWord? tag = some a) : Reads (keptWord ofWord?) (.string tag) a := by
  refine ⟨trivial, ?_⟩
  rw [Json.scan, keptWord, htag]

end Simple

section Lists

variable {α : Type} {decode : Decoder α} {toJson : α → Json}

theorem smallItems_map {as : List α} (h : ∀ a ∈ as, decode.Reads (toJson a) a) :
    SmallItems (as.map toJson) := by
  induction as with
  | nil => trivial
  | cons a rest ih =>
    obtain ⟨ha, hrest⟩ := List.forall_mem_cons.mp h
    exact ⟨ha.small, ih hrest⟩

theorem items_scanItems {as : List α} (h : ∀ a ∈ as, decode.Reads (toJson a) a) :
    items decode (Json.scanItems (as.map toJson)) = .ok as := by
  induction as with
  | nil => rfl
  | cons a rest ih =>
    obtain ⟨ha, hrest⟩ := List.forall_mem_cons.mp h
    rw [List.map_cons, Json.scanItems, items, ha.scan, ih hrest]

/-- A list is read back item by item. -/
theorem reads_list {as : List α} (h : ∀ a ∈ as, decode.Reads (toJson a) a) :
    Reads (list decode) (.array (as.map toJson)) as := by
  refine ⟨smallItems_map h, ?_⟩
  rw [Json.scan, list, items_scanItems h]

end Lists

section Records

variable {σ α : Type} {fields : List (Field σ)} {draft next last : σ}

/-- Members are read into a draft one after the other. -/
structure ReadsMembers (fields : List (Field σ)) (draft : σ) (named : List (String × Json))
    (last : σ) : Prop where
  /-- No number in them is too large. -/
  small : SmallMembers named
  /-- Their trees lead from one draft to the other. -/
  scan : members fields (Json.scanMembers named) draft = .ok last

theorem ReadsMembers.nil (draft : σ) : ReadsMembers fields draft [] draft :=
  ⟨trivial, rfl⟩

/-- A member whose field the draft does not hold yet goes into the draft. -/
theorem ReadsMembers.cons {name : String} {get : σ → Option α} {set : σ → α → σ}
    {decode : Decoder α} {j : Json} {a : α} {rest : List (String × Json)}
    (hfield : fields.find? (·.name == name) = some (field name get set decode))
    (hunset : get draft = none) (hread : decode.Reads j a)
    (hrest : ReadsMembers fields (set draft a) rest last) :
    ReadsMembers fields draft ((name, j) :: rest) last := by
  have hopen : (field name get set decode).isSet draft = false :=
    congrArg Option.isSome hunset
  have hput : (field name get set decode).put draft j.scan = .ok (set draft a) := by
    simp only [field, hread.scan]
  refine ⟨⟨hread.small, hrest.small⟩, ?_⟩
  rw [Json.scanMembers, members]
  simp only [hfield, hopen, hput, Bool.false_eq_true, if_false]
  exact hrest.scan

/-- A record is read back from its members. -/
theorem reads_record {empty : σ} {finish : σ → Option α} {named : List (String × Json)} {a : α}
    (hmembers : ReadsMembers fields empty named last) (hfinish : finish last = some a) :
    Reads (record fields empty finish) (.object named) a := by
  refine ⟨hmembers.small, ?_⟩
  rw [Json.scan, record, hmembers.scan]
  simp only [hfinish]

end Records

end MazeRobot.Decoder

import MazeRobot.Json.Decode

/-!
# What a record was read from

A record that was read has in each field what its tree holds for that field, and the
default where the tree holds nothing, whether it is written as an object or as an
array. That takes no more than that every field of the record has a part of the draft
to itself.
-/

namespace MazeRobot

/-- Where a record has a field: at an index in an array, under a name in an object. -/
structure Slot where
  /-- The index. -/
  index : Nat
  /-- The name. -/
  name : String

namespace Scan

/-- The first member of a name. -/
def named? (name : String) : List (Except Fault String × Scan) → Option Scan
  | [] => none
  | (.ok other, s) :: rest => if other = name then some s else named? name rest
  | (.error _, _) :: rest => named? name rest

/-- What a record holds for a field. -/
def slot? : Scan → Slot → Option Scan
  | .object members _, slot => named? slot.name members
  | .array items _, slot => items[slot.index]?
  | _, _ => none

end Scan

namespace Decoder

/-- A value that was read from what there is, and else is preset. -/
def ReadOr {α : Type} (decode : Decoder α) (held : Option Scan) (value preset : α) : Prop :=
  match held with
  | some s => decode s = .ok value
  | none => value = preset

section Records

variable {σ α β : Type} {fields : List (Field σ)} {slot : Slot} {get : σ → Option α}
  {set : σ → α → σ} {decode : Decoder α} {draft last : σ}

/-- A field does not touch a part of the draft. -/
def Field.Spares (f : Field σ) (get : σ → Option α) : Prop :=
  ∀ draft s next, f.put draft s = .ok next → get next = get draft

/-- A field has a part of the draft to itself. -/
structure Owns (fields : List (Field σ)) (slot : Slot) (get : σ → Option α) (set : σ → α → σ)
    (decode : Decoder α) : Prop where
  /-- The record has the field at its index. -/
  here : fields[slot.index]? = some (field slot.name get set decode)
  /-- No two fields have one name. -/
  names : (fields.map (·.name)).Nodup
  /-- What it puts into the draft is there. -/
  stays : ∀ draft a, get (set draft a) = some a
  /-- No other field touches it. -/
  others : ∀ f ∈ fields, f.name = slot.name ∨ f.Spares get

theorem put_field_eq_ok {name : String} {s : Scan}
    (h : (field name get set decode).put draft s = .ok last) :
    ∃ a, decode s = .ok a ∧ last = set draft a := by
  unfold field at h
  dsimp only at h
  split at h
  next a hread => exact ⟨a, hread, (Except.ok.inj h).symm⟩
  next => cases h

@[simp]
theorem name_field {name : String} : (field name get set decode).name = name := rfl

theorem spares_field {name : String} {other : σ → Option β} {put : σ → β → σ} {read : Decoder β}
    (h : ∀ draft b, get (put draft b) = get draft) : (field name other put read).Spares get := by
  intro draft s next hput
  obtain ⟨b, -, rfl⟩ := put_field_eq_ok hput
  exact h draft b

/-- The fields before and behind are others, and they do not touch it. -/
theorem Owns.split (own : Owns fields slot get set decode) :
    ∃ before after, fields = before ++ field slot.name get set decode :: after ∧
      before.length = slot.index ∧ ∀ f ∈ before ++ after, f.name ≠ slot.name ∧ f.Spares get := by
  obtain ⟨hlt, hget⟩ := List.getElem?_eq_some_iff.mp own.here
  have hsplit : fields = fields.take slot.index ++
      field slot.name get set decode :: fields.drop (slot.index + 1) := by
    rw [← hget, List.getElem_cons_drop, List.take_append_drop]
  refine ⟨_, _, hsplit, List.length_take_of_le (Nat.le_of_lt hlt), fun f hf => ?_⟩
  -- The names of all fields differ, so the name of this one is not among the others.
  have hnames := own.names
  rw [hsplit, List.map_append, List.map_cons, List.perm_middle.nodup_iff, ← List.map_append]
    at hnames
  have hname : f.name ≠ slot.name := fun heq =>
    (List.nodup_cons.mp hnames).1 (List.mem_map.mpr ⟨f, hf, heq⟩)
  have hmem : f ∈ fields := by
    rw [hsplit]
    exact (List.mem_append.mp hf).elim (List.mem_append_left _)
      fun h => List.mem_append_right _ (List.mem_cons_of_mem _ h)
  exact ⟨hname, (own.others f hmem).resolve_left hname⟩

/-- Without items, the draft stays as it is. -/
theorem eq_of_positional_nil {out : σ × List Scan}
    (hread : positional fields [] draft = .ok out) : out.1 = draft := by
  cases fields <;> cases hread <;> rfl

/-- The first item goes to the first field. -/
theorem positional_cons_eq_ok {f : Field σ} {s : Scan} {scans : List Scan} {out : σ × List Scan}
    (hread : positional (f :: fields) (s :: scans) draft = .ok out) :
    ∃ next, f.put draft s = .ok next ∧ positional fields scans next = .ok out := by
  rw [positional] at hread
  cases hput : f.put draft s with
  | error fault =>
    rw [hput] at hread
    cases hread
  | ok next =>
    rw [hput] at hread
    exact ⟨next, rfl, hread⟩

theorem positional_spares (h : ∀ f ∈ fields, f.Spares get) {scans : List Scan}
    {out : σ × List Scan} (hread : positional fields scans draft = .ok out) :
    get out.1 = get draft := by
  induction fields generalizing scans draft with
  | nil =>
    obtain rfl := Except.ok.inj hread
    rfl
  | cons f rest ih =>
    obtain ⟨hf, hrest⟩ := List.forall_mem_cons.mp h
    cases scans with
    | nil => rw [eq_of_positional_nil hread]
    | cons s scans =>
      obtain ⟨next, hput, hnext⟩ := positional_cons_eq_ok hread
      exact (ih hrest hnext).trans (hf _ _ _ hput)

/-- Between fields that do not touch it, a part of the draft gets what the item in its
place is read as. -/
theorem positional_own {name : String} {before after : List (Field σ)}
    (stays : ∀ draft a, get (set draft a) = some a) (h : ∀ f ∈ before ++ after, f.Spares get)
    {scans : List Scan} {out : σ × List Scan} (unset : get draft = none)
    (hread : positional (before ++ field name get set decode :: after) scans draft = .ok out) :
    scans[before.length]?.map decode = (get out.1).map .ok := by
  induction before generalizing scans draft with
  | nil =>
    cases scans with
    | nil =>
      rw [eq_of_positional_nil hread, unset]
      rfl
    | cons s scans =>
      -- The item in its place is the first one, and the fields behind leave what it puts there.
      obtain ⟨next, hput, hnext⟩ := positional_cons_eq_ok hread
      obtain ⟨a, ha, rfl⟩ := put_field_eq_ok hput
      rw [positional_spares h hnext, stays]
      exact congrArg some ha
  | cons f before ih =>
    obtain ⟨hf, hrest⟩ := List.forall_mem_cons.mp h
    cases scans with
    | nil =>
      rw [eq_of_positional_nil hread, unset]
      rfl
    | cons s scans =>
      obtain ⟨next, hput, hnext⟩ := positional_cons_eq_ok hread
      exact ih hrest ((hf _ _ _ hput).trans unset) hnext

theorem Owns.find (own : Owns fields slot get set decode) :
    fields.find? (·.name == slot.name) = some (field slot.name get set decode) := by
  obtain ⟨before, after, hfields, -, hothers⟩ := own.split
  refine List.find?_eq_some_iff_append.mpr ⟨beq_self_eq_true _, before, after, hfields,
    fun f hf => ?_⟩
  simpa using (hothers f (List.mem_append_left _ hf)).1

theorem Owns.spares_of_find (own : Owns fields slot get set decode) {name : String} {f : Field σ}
    (hname : name ≠ slot.name) (hfind : fields.find? (·.name == name) = some f) :
    f.Spares get := by
  have hf : f.name = name := by simpa using List.find?_some hfind
  exact (own.others f (List.mem_of_find?_eq_some hfind)).resolve_left (hf ▸ hname)

/-- A member goes to the field of its name, which the draft must not have yet, or it is
skipped. -/
theorem members_cons_eq_ok {name : String} {s : Scan} {rest : List (Except Fault String × Scan)}
    (hread : members fields ((.ok name, s) :: rest) draft = .ok last) :
    ∃ next, members fields rest next = .ok last ∧
      ((∃ f, fields.find? (·.name == name) = some f ∧ f.isSet draft = false ∧
          f.put draft s = .ok next) ∨
        fields.find? (·.name == name) = none ∧ next = draft) := by
  rw [members] at hread
  cases hfind : fields.find? (·.name == name) with
  | none =>
    simp only [hfind] at hread
    cases hskip : skip s with
    | error fault =>
      rw [hskip] at hread
      cases hread
    | ok _ =>
      rw [hskip] at hread
      exact ⟨draft, hread, .inr ⟨rfl, rfl⟩⟩
  | some f =>
    simp only [hfind] at hread
    split at hread
    next => cases hread
    next hunset =>
      cases hput : f.put draft s with
      | error fault =>
        rw [hput] at hread
        cases hread
      | ok next =>
        rw [hput] at hread
        exact ⟨next, hread, .inl ⟨f, rfl, Bool.eq_false_iff.mpr hunset, hput⟩⟩

/-- A member of the name fills the part of the draft, which has to be empty, and the
other members leave it. -/
theorem Owns.member (own : Owns fields slot get set decode) {name : String} {s : Scan}
    {rest : List (Except Fault String × Scan)}
    (hread : members fields ((.ok name, s) :: rest) draft = .ok last) :
    ∃ next, members fields rest next = .ok last ∧
      ((name = slot.name ∧ get draft = none ∧ ∃ a, decode s = .ok a ∧ get next = some a) ∨
        (name ≠ slot.name ∧ get next = get draft)) := by
  obtain ⟨next, hnext, ⟨f, hfind, hunset, hput⟩ | ⟨hfind, rfl⟩⟩ := members_cons_eq_ok hread
  · refine ⟨next, hnext, ?_⟩
    by_cases hname : name = slot.name
    · rw [hname, own.find] at hfind
      obtain rfl := Option.some.inj hfind
      obtain ⟨a, ha, rfl⟩ := put_field_eq_ok hput
      have hnone : get draft = none :=
        Option.isNone_iff_eq_none.mp (Option.isSome_eq_false_iff.mp hunset)
      exact .inl ⟨hname, hnone, a, ha, own.stays draft a⟩
    · exact .inr ⟨hname, own.spares_of_find hname hfind draft s next hput⟩
  · have hname : name ≠ slot.name := fun heq => by
      rw [heq, own.find] at hfind
      cases hfind
    exact ⟨next, hnext, .inr ⟨hname, rfl⟩⟩

/-- What a draft has is not read again. -/
theorem Owns.members_of_some (own : Owns fields slot get set decode) {a : α}
    {named : List (Except Fault String × Scan)} (hset : get draft = some a)
    (hread : members fields named draft = .ok last) : get last = some a := by
  induction named generalizing draft with
  | nil =>
    obtain rfl := Except.ok.inj hread
    exact hset
  | cons member rest ih =>
    obtain ⟨_ | name, s⟩ := member
    · cases hread
    · obtain ⟨next, hrest, ⟨-, hnone, -⟩ | ⟨-, hnext⟩⟩ := own.member hread
      · rw [hset] at hnone
        cases hnone
      · exact ih (hnext.trans hset) hrest

/-- What it lacks is read from the first member of the name. -/
theorem Owns.members_of_none (own : Owns fields slot get set decode)
    {named : List (Except Fault String × Scan)} (unset : get draft = none)
    (hread : members fields named draft = .ok last) :
    (Scan.named? slot.name named).map decode = (get last).map .ok := by
  induction named generalizing draft with
  | nil =>
    obtain rfl := Except.ok.inj hread
    rw [unset]
    rfl
  | cons member rest ih =>
    obtain ⟨_ | name, s⟩ := member
    · cases hread
    · obtain ⟨next, hrest, ⟨hname, -, a, ha, hnext⟩ | ⟨hname, hnext⟩⟩ := own.member hread
      · rw [Scan.named?, if_pos hname, own.members_of_some hnext hrest]
        exact congrArg some ha
      · rw [Scan.named?, if_neg hname]
        exact ih (hnext.trans unset) hrest

/-- The draft that a record was made of has in each part what the tree of the record
holds for the field. -/
theorem Owns.record (own : Owns fields slot get set decode) {empty : σ} {finish : σ → Option β}
    {s : Scan} {b : β} (unset : get empty = none)
    (h : record fields empty finish s = .ok b) :
    ∃ draft, finish draft = some b ∧ (s.slot? slot).map decode = (get draft).map .ok := by
  cases s with
  | object named tail =>
    rw [Decoder.record] at h
    cases hread : members fields named empty with
    | error fault =>
      rw [hread] at h
      cases h
    | ok draft =>
      rw [hread] at h
      have hfinish : finish draft = some b := by grind
      exact ⟨draft, hfinish, own.members_of_none unset hread⟩
  | array scans tail =>
    rw [Decoder.record] at h
    cases hread : positional fields scans empty with
    | error fault =>
      rw [hread] at h
      cases h
    | ok out =>
      rw [hread] at h
      have hfinish : finish out.1 = some b := by grind
      obtain ⟨before, after, hfields, hindex, hothers⟩ := own.split
      rw [hfields] at hread
      rw [Scan.slot?, ← hindex]
      exact ⟨out.1, hfinish,
        positional_own own.stays (fun f hf => (hothers f hf).2) unset hread⟩
  | _ => cases h

/-- So a field that is filled in from the draft was read, or it is preset. -/
theorem readOr_record {empty : σ} {fill : σ → β} {part : β → α} {preset : α} {s : Scan} {b : β}
    (h : Decoder.record fields empty (fun draft => some (fill draft)) s = .ok b)
    (own : Owns fields slot get set decode) (unset : get empty = none)
    (hpart : ∀ draft, part (fill draft) = (get draft).getD preset) :
    ReadOr decode (s.slot? slot) (part b) preset := by
  obtain ⟨draft, hfill, hheld⟩ := own.record unset h
  obtain rfl := Option.some.inj hfill
  rw [hpart]
  -- The tree holds the field exactly if the draft has its part.
  cases hslot : s.slot? slot <;> cases hget : get draft <;> rw [hslot, hget] at hheld
  · rfl
  · cases hheld
  · cases hheld
  · exact Option.some.inj hheld

end Records

end Decoder

end MazeRobot

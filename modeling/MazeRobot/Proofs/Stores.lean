import MazeRobot.Proofs.Directories
import MazeRobot.Proofs.Reading
import MazeRobot.Store.Calls
import MazeRobot.Store.Memory

/-!
# Stores on disks and in memory

A store below a directory in which nothing stands answers all calls as a store
in memory does, however often it is opened again, as long as no name and no path
is too long. Every pair of names has a file of its own, and what is written into it
is what is read from it. A team has a directory and a puzzle a file in it, so
neither is ever in the place of the other, and no call fails. A call whose names
are not in order is refused and leaves the disk as it is.
-/

namespace MazeRobot

namespace SavedCode

/-- A saved script is read back from the text that is written for it. -/
theorem decode_pretty (saved : SavedCode) :
    Decoder.text decode saved.toJson.pretty = .ok saved := by
  have hword : saved.revision.toNat < 2 ^ 64 := saved.revision.toNat_lt
  have hsmall : saved.toJson.Small := by
    refine ⟨trivial, ?_, trivial⟩
    rw [Json.Small, Int.natAbs_natCast, Scan.maxWord]
    exact Nat.le_sub_one_of_lt hword
  have hrange : (0 : Int) ≤ saved.revision.toNat ∧
      (saved.revision.toNat : Int) ≤ 18446744073709551615 := by omega
  have hrevision : Decoder.uint64 (.number (.whole saved.revision.toNat)) = .ok saved.revision := by
    rw [Decoder.uint64, Decoder.intBetween, if_pos hrange]
    exact congrArg Except.ok (UInt64.ofNat_toNat)
  rw [Json.pretty, Decoder.text_write decode Json.Layout.blank_pretty 1 hsmall]
  simp [decode, toJson, Json.scan, Json.scanMembers, Decoder.record, Decoder.members,
    Decoder.field, Decoder.string, hrevision]

end SavedCode

namespace Store

section Files

theorem isKey_iff (name : String) :
    isKey name = true ↔ name ≠ "" ∧ ∀ c ∈ name.toList, isKeyChar c = true := by
  rw [isKey, Bool.and_eq_true, decide_eq_true_iff, List.all_eq_true]

/-- No name has a character in it that is not one of a name. -/
theorem not_mem_of_isKey {name : String} (h : isKey name = true) {c : Char}
    (hc : isKeyChar c = false) : c ∉ name.toList := by
  intro hmem
  rw [((isKey_iff name).mp h).2 c hmem] at hc
  cases hc

/-- The name of a team leads one step on. -/
theorem plain_of_isKey {name : String} (h : isKey name = true) : Disk.Plain name := by
  have hne (text : String) (hdot : '.' ∈ text.toList) : name ≠ text := by
    rintro rfl
    exact not_mem_of_isKey h rfl hdot
  exact ⟨((isKey_iff name).mp h).1, not_mem_of_isKey h rfl, not_mem_of_isKey h rfl,
    hne "." (by decide), hne ".." (by decide)⟩

/-- So does the name of the file of a puzzle. -/
theorem plain_json_of_isKey {name : String} (h : isKey name = true) :
    Disk.Plain (name ++ ".json") := by
  have hlist : (name ++ ".json").toList = name.toList ++ ['.', 'j', 's', 'o', 'n'] :=
    String.toList_append
  have hout (c : Char) (hc : isKeyChar c = false) (hend : c ∉ ['.', 'j', 's', 'o', 'n']) :
      c ∉ (name ++ ".json").toList := by
    rw [hlist, List.mem_append]
    exact not_or.mpr ⟨not_mem_of_isKey h hc, hend⟩
  have hlong (text : String) (hshort : text.toList.length < 5) : name ++ ".json" ≠ text := by
    rintro rfl
    rw [hlist, List.length_append] at hshort
    exact absurd hshort (by simp)
  exact ⟨hlong "" (by decide), hout '/' rfl (by decide), hout '\x00' rfl (by decide),
    hlong "." (by decide), hlong ".." (by decide)⟩

/-- The file of a puzzle for a team stands in the directory of the team below the
directory of the store. -/
theorem placeOf_file (root : String) {puzzle team : String} (hpuzzle : isKey puzzle = true)
    (hteam : isKey team = true) :
    Disk.placeOf (file root puzzle team) = Disk.placeOf root ++ [team, puzzle ++ ".json"] := by
  rw [file, directory, Disk.placeOf_join _ (plain_json_of_isKey hpuzzle),
    Disk.placeOf_join _ (plain_of_isKey hteam), List.append_assoc]
  rfl

/-- Every pair of names has a place of its own. -/
theorem placeOf_file_inj {root puzzle team puzzle' team' : String} (hpuzzle : isKey puzzle = true)
    (hteam : isKey team = true) (hpuzzle' : isKey puzzle' = true) (hteam' : isKey team' = true)
    (h : Disk.placeOf (file root puzzle team) = Disk.placeOf (file root puzzle' team')) :
    (team, puzzle) = (team', puzzle') := by
  rw [placeOf_file root hpuzzle hteam, placeOf_file root hpuzzle' hteam'] at h
  have hnames := List.append_cancel_left h
  obtain ⟨hsame, hfile⟩ := List.cons.inj hnames
  have hname : (puzzle ++ ".json").toList = (puzzle' ++ ".json").toList :=
    congrArg String.toList (List.cons.inj hfile).1
  rw [String.toList_append, String.toList_append] at hname
  rw [hsame, String.toList_inj.mp (List.append_cancel_right hname)]

end Files

/-- A disk that keeps below a directory what a shelf keeps. -/
structure Keeps (root : String) (d : Disk) (s : Shelf) : Prop where
  /-- What is on the shelf is in its file. -/
  kept : ∀ puzzle team, isKey puzzle = true → isKey team = true →
    ∀ saved, s.get? (team, puzzle) = some saved →
      d.read (file root puzzle team) = .ok saved.toJson.pretty
  /-- What is not on the shelf has no file. -/
  vacant : ∀ puzzle team, isKey puzzle = true → isKey team = true →
    s.get? (team, puzzle) = none →
      ∀ text, d.entry? (Disk.placeOf (file root puzzle team)) ≠ some (.file text)

/-- A disk on which no team has a file and no puzzle a directory below a directory. -/
structure Sorted (root : String) (d : Disk) : Prop where
  /-- A directory of a team can be made. -/
  teams : ∀ team, isKey team = true →
    ∀ text, d.entry? (Disk.placeOf root ++ [team]) ≠ some (.file text)
  /-- A file of a puzzle can be written. -/
  puzzles : ∀ puzzle team, isKey puzzle = true → isKey team = true →
    d.entry? (Disk.placeOf root ++ [team, puzzle ++ ".json"]) ≠ some .directory

/-- A disk that can hold a store below a directory. -/
structure Hosts (root : String) (d : Disk) : Prop where
  /-- No character ends the path of the directory. -/
  nul : '\x00' ∉ root.toList
  /-- The directory is there, or it can be made, and then no call finds a file or a
  directory in the place of the other. -/
  made : ∃ d', Disk.makeAlong [] (Disk.plainNames root) d = (d', .ok ()) ∧ Sorted root d'

section Fit

variable {root : String} {d d' : Disk} {s : Shelf} {puzzle team : String}

theorem fileOf_of_isKey (root : String) (hpuzzle : isKey puzzle = true)
    (hteam : isKey team = true) : fileOf root puzzle team = .ok (file root puzzle team) := by
  rw [fileOf, hteam, hpuzzle]
  rfl

/-- A directory that can be made and is empty then can hold a store, and keeps what an
empty shelf does. -/
theorem hosts_of_empty (hroot : d.makeDirectories root = (d', .ok ()))
    (hempty : ∀ names, names ≠ [] → d'.entry? (Disk.placeOf root ++ names) = none) :
    Hosts root d ∧ Keeps root d .empty := by
  obtain ⟨hfit, hmade⟩ := Disk.makeDirectories_eq_ok hroot
  have hgrows := Disk.grows_of_makeAlong hmade
  refine ⟨⟨((Disk.unfit?_eq_none_iff root).mp hfit).1, d', hmade, ?_, ?_⟩, ?_, ?_⟩
  · intro team _ text
    rw [hempty _ (List.cons_ne_nil _ _)]
    exact nofun
  · intro puzzle team _ _
    rw [hempty _ (List.cons_ne_nil _ _)]
    exact nofun
  · intro puzzle team _ _ saved hsaved
    cases hsaved
  · intro puzzle team hpuzzle hteam _ text hfile
    have hthere := hgrows.keeps _ _ hfile
    rw [placeOf_file root hpuzzle hteam, hempty _ (List.cons_ne_nil _ _)] at hthere
    cases hthere

/-- What a path that leads nowhere tells is that nothing was saved. -/
theorem ofFile_of_isAstray (path : String) {fault : Disk.Fault} (h : fault.IsAstray) :
    ofFile path (.error fault) = .ok none := by
  obtain rfl | rfl | rfl | rfl := h <;> rfl

/-- No directory stands in the place of a file of the store. -/
theorem Hosts.entry?_file_ne (h : Hosts root d) (hpuzzle : isKey puzzle = true)
    (hteam : isKey team = true) :
    d.entry? (Disk.placeOf (file root puzzle team)) ≠ some .directory := by
  obtain ⟨d', hmade, hsorted⟩ := h.made
  intro hdir
  rw [placeOf_file root hpuzzle hteam] at hdir
  exact hsorted.puzzles puzzle team hpuzzle hteam
    ((Disk.grows_of_makeAlong hmade).keeps _ _ hdir)

/-- Both stores load the same. -/
theorem Keeps.load (h : Keeps root d s) (hhosts : Hosts root d) (hpuzzle : isKey puzzle = true)
    (hteam : isKey team = true) :
    loadFrom root d puzzle team = .ok (s.get? (team, puzzle)) := by
  rw [loadFrom, fileOf_of_isKey root hpuzzle hteam]
  dsimp only
  cases hsaved : s.get? (team, puzzle) with
  | some saved =>
    rw [h.kept puzzle team hpuzzle hteam saved hsaved, ofFile]
    simp only [saved.decode_pretty]
  | none =>
    cases hread : d.read (file root puzzle team) with
    | error fault =>
      have hastray := Disk.isAstray_of_read hread (hhosts.entry?_file_ne hpuzzle hteam)
      exact ofFile_of_isAstray _ hastray
    | ok text =>
      exact absurd (Disk.read_eq_ok hread).2 (h.vacant puzzle team hpuzzle hteam hsaved text)

/-- The directory of a team can be made where a store can be, and nothing else is made
below the directory of the store. -/
theorem Hosts.makeDirectories (h : Hosts root d) (hteam : isKey team = true)
    (hshort : team.utf8ByteSize ≤ Disk.maxName)
    (hpath : (directory root team).utf8ByteSize ≤ Disk.maxPath) :
    ∃ d₁, d.makeDirectories (directory root team) = (d₁, .ok ()) ∧
      Disk.makeAlong [] (Disk.plainNames root) d₁ = (d₁, .ok ()) ∧ Sorted root d₁ ∧
      Disk.Leads d₁ (directory root team) := by
  obtain ⟨d', hmade, hsorted⟩ := h.made
  have hplain := plain_of_isKey hteam
  have hfit : Disk.unfit? (directory root team) = none :=
    (Disk.unfit?_eq_none_iff _).mpr ⟨Disk.not_mem_join (by decide) h.nul hplain.nul, hpath⟩
  obtain ⟨d₁, hdone, hgrows, hleads, hothers⟩ :=
    Disk.makeDirectories_join hmade hplain hshort hfit (hsorted.teams team hteam)
  have hagain := Disk.makeAlong_again hmade fun q hq => hgrows.keeps q _ hq
  have hstill : Sorted root d₁ := by
    constructor
    · intro other hother text hfile
      exact hsorted.teams other hother text (hgrows.files _ _ hfile)
    · intro puzzle other hpuzzle hother
      rw [hothers _ (by simp)]
      exact hsorted.puzzles puzzle other hpuzzle hother
  exact ⟨d₁, hdone, hagain, hstill, hleads⟩

/-- A file of a puzzle keeps the teams apart from the puzzles. -/
theorem Sorted.write (h : Sorted root d) (hpuzzle : isKey puzzle = true) (hteam : isKey team = true)
    {text : String} (hwrite : d.write (file root puzzle team) text = .ok d') : Sorted root d' := by
  refine ⟨fun other hother held => ?_, fun other owner hother howner => ?_⟩
  · rw [Disk.entry?_write hwrite, placeOf_file root hpuzzle hteam, if_neg (by simp)]
    exact h.teams other hother held
  · rw [Disk.entry?_write hwrite]
    split
    · exact nofun
    · exact h.puzzles other owner hother howner

/-- A file can be written for a pair of names that are not too long, behind the directory
of the team, and the disk can hold the store as before. -/
theorem Hosts.write (h : Hosts root d) (hpuzzle : isKey puzzle = true) (hteam : isKey team = true)
    {code : String} (hshort : Call.isShort root (.save puzzle team code) = true) (text : String) :
    ∃ d₁ d₂, d.makeDirectories (directory root team) = (d₁, .ok ()) ∧
      d₁.write (file root puzzle team) text = .ok d₂ ∧ Hosts root d₂ := by
  obtain ⟨hname, hfile, hpath⟩ := of_decide_eq_true hshort
  obtain ⟨d₁, hdone, hagain, hsorted, hleads⟩ :=
    h.makeDirectories hteam hname (Nat.le_trans (Disk.utf8ByteSize_le_join _ _) hpath)
  have hplain := plain_json_of_isKey hpuzzle
  have hnul : '\x00' ∉ (file root puzzle team).toList :=
    Disk.not_mem_join (by decide)
      (Disk.not_mem_join (by decide) h.nul (plain_of_isKey hteam).nul) hplain.nul
  have hfree : Disk.entry? d₁ (Disk.placeOf (directory root team) ++ [puzzle ++ ".json"]) ≠
      some .directory := by
    rw [← Disk.placeOf_join _ hplain]
    change Disk.entry? d₁ (Disk.placeOf (file root puzzle team)) ≠ _
    rw [placeOf_file root hpuzzle hteam]
    exact hsorted.puzzles puzzle team hpuzzle hteam
  obtain ⟨d₂, hwrite⟩ := hleads.exists_write hplain hfile
    ((Disk.unfit?_eq_none_iff _).mpr ⟨hnul, hpath⟩) hfree text
  exact ⟨d₁, d₂, hdone, hwrite, h.nul, d₂,
    Disk.makeAlong_again hagain (Disk.directory_write hwrite), hsorted.write hpuzzle hteam hwrite⟩

/-- A file that was written for a pair of names leaves those of the others as they
were, and so do directories that were made before. -/
theorem Keeps.write (h : Keeps root d s) (hpuzzle : isKey puzzle = true)
    (hteam : isKey team = true) {d₁ d₂ : Disk} (hgrows : Disk.Grows d d₁) {saved : SavedCode}
    (hwrite : d₁.write (file root puzzle team) saved.toJson.pretty = .ok d₂) :
    Keeps root d₂ (s.put (team, puzzle) saved) := by
  refine ⟨fun puzzle' team' hpuzzle' hteam' saved' hsaved => ?_,
    fun puzzle' team' hpuzzle' hteam' hnone text hfile => ?_⟩
  · rw [Shelf.get?_put] at hsaved
    split at hsaved
    · next heq =>
      obtain ⟨rfl, rfl⟩ := Prod.mk.inj heq
      obtain rfl := Option.some.inj hsaved
      exact Disk.read_write hwrite
    · next hne =>
      refine Disk.read_write_of_ne hwrite (fun heq => hne ?_)
        (hgrows.read (h.kept puzzle' team' hpuzzle' hteam' saved' hsaved))
      exact placeOf_file_inj hpuzzle hteam hpuzzle' hteam' heq.symm
  · rw [Shelf.get?_put] at hnone
    split at hnone
    · cases hnone
    · next hne =>
      rw [Disk.entry?_write hwrite, if_neg fun heq =>
        hne (placeOf_file_inj hpuzzle hteam hpuzzle' hteam' heq.symm)] at hfile
      exact h.vacant puzzle' team' hpuzzle' hteam' hnone text (hgrows.files _ _ hfile)

/-- Both stores save the same and keep the same after it. -/
theorem Keeps.save (h : Keeps root d s) (hhosts : Hosts root d) (hpuzzle : isKey puzzle = true)
    (hteam : isKey team = true) {code : String}
    (hshort : Call.isShort root (.save puzzle team code) = true) :
    ∃ d', (onDisk root).answer d (.save puzzle team code) =
        (d', (inMemory.answer s (.save puzzle team code)).2) ∧
      Hosts root d' ∧ Keeps root d' (inMemory.answer s (.save puzzle team code)).1 := by
  let saved : SavedCode := ⟨code, nextRevision (s.get? (team, puzzle))⟩
  obtain ⟨d₁, d₂, hmade, hwrite, hnext⟩ :=
    hhosts.write hpuzzle hteam hshort saved.toJson.pretty
  have hgrows : Disk.Grows d d₁ := by
    have hgrows := Disk.grows_makeDirectories d (directory root team)
    rwa [hmade] at hgrows
  have hsave : saveTo root d puzzle team code = (d₂, .ok saved) := by
    unfold saveTo
    rw [h.load hhosts hpuzzle hteam]
    simp only [hmade]
    rw [hwrite]
  refine ⟨d₂, ?_, hnext, h.write hpuzzle hteam hgrows hwrite⟩
  simp only [Store.answer, onDisk, hsave]
  rfl

/-- Both stores answer a call with names in order alike and keep the same after it. -/
theorem Keeps.answer (h : Keeps root d s) (hhosts : Hosts root d) {call : Call}
    (hfit : call.isFit = true) (hshort : call.isShort root = true) :
    ∃ d', (onDisk root).answer d call = (d', (inMemory.answer s call).2) ∧
      Hosts root d' ∧ Keeps root d' (inMemory.answer s call).1 := by
  cases call with
  | load puzzle team =>
    obtain ⟨hpuzzle, hteam⟩ := (Bool.and_eq_true _ _).mp hfit
    exact ⟨d, congrArg (Prod.mk d) (h.load hhosts hpuzzle hteam), hhosts, h⟩
  | save puzzle team code =>
    obtain ⟨hpuzzle, hteam⟩ := (Bool.and_eq_true _ _).mp hfit
    exact h.save hhosts hpuzzle hteam hshort

end Fit

/-- A call whose names are not in order is refused, and the disk stays as it is. -/
theorem answer_of_not_isFit (root : String) (d : Disk) {call : Call} (hfit : call.isFit = false) :
    ∃ name, isKey name = false ∧ (onDisk root).answer d call = (d, .error (.badKey name)) := by
  have hfile {puzzle team : String} (hkeys : (isKey puzzle && isKey team) = false) :
      ∃ name, isKey name = false ∧ fileOf root puzzle team = .error (.badKey name) := by
    cases hteam : isKey team with
    | false => exact ⟨team, hteam, by rw [fileOf, hteam]; rfl⟩
    | true =>
      rw [hteam, Bool.and_true] at hkeys
      exact ⟨puzzle, hkeys, by rw [fileOf, hteam, hkeys]; rfl⟩
  cases call with
  | load puzzle team =>
    obtain ⟨name, hname, hbad⟩ := hfile hfit
    refine ⟨name, hname, ?_⟩
    simp only [answer, onDisk, loadFrom, hbad]
  | save puzzle team code =>
    obtain ⟨name, hname, hbad⟩ := hfile hfit
    refine ⟨name, hname, ?_⟩
    simp only [answer, onDisk, saveTo, loadFrom, hbad]

theorem answerAll_cons {σ : Type} (store : Store σ) (call : Call) (rest : List Call) (state : σ) :
    store.answerAll (call :: rest) state =
      ((store.answerAll rest (store.answer state call).1).1,
        (store.answer state call).2 :: (store.answerAll rest (store.answer state call).1).2) :=
  rfl

theorem answerAll_append {σ : Type} (store : Store σ) (calls later : List Call) (state : σ) :
    store.answerAll (calls ++ later) state =
      ((store.answerAll later (store.answerAll calls state).1).1,
        (store.answerAll calls state).2 ++
          (store.answerAll later (store.answerAll calls state).1).2) := by
  induction calls generalizing state with
  | nil => rfl
  | cons call rest ih => rw [List.cons_append, answerAll_cons, ih, answerAll_cons, List.cons_append]

/-- Opening a store again changes nothing. -/
theorem sitAll_eq (root : String) (sittings : List (List Call)) (d : Disk) :
    sitAll root sittings d = (onDisk root).answerAll sittings.flatten d := by
  induction sittings generalizing d with
  | nil => rfl
  | cons calls rest ih =>
    rw [List.flatten_cons, answerAll_append, ← ih]
    rfl

/-- What the calls with names in order returned. -/
def fitReplies (calls : List Call) (replies : List Reply) : List Reply :=
  ((calls.zip replies).filter (·.1.isFit)).map (·.2)

theorem fitReplies_cons (call : Call) (calls : List Call) (reply : Reply) (replies : List Reply) :
    fitReplies (call :: calls) (reply :: replies) =
      if call.isFit then reply :: fitReplies calls replies else fitReplies calls replies := by
  rw [fitReplies, List.zip_cons_cons, List.filter_cons]
  split <;> rfl

/-- A store on a disk answers the calls with names in order as a store in memory that
gets only these. -/
theorem Keeps.answerAll {root : String} {d : Disk} {s : Shelf} (h : Keeps root d s)
    (hhosts : Hosts root d) {calls : List Call}
    (hshort : ∀ call ∈ calls, call.isFit = true → call.isShort root = true) :
    fitReplies calls ((onDisk root).answerAll calls d).2 =
      (inMemory.answerAll (calls.filter Call.isFit) s).2 := by
  induction calls generalizing d s with
  | nil => rfl
  | cons call rest ih =>
    obtain ⟨hfirst, hrest⟩ := List.forall_mem_cons.mp hshort
    rw [answerAll_cons]
    cases hfit : call.isFit with
    | true =>
      obtain ⟨d', hanswer, hhosts', hkeeps⟩ := h.answer hhosts hfit (hfirst hfit)
      rw [hanswer, fitReplies_cons, if_pos hfit, List.filter_cons_of_pos hfit, answerAll_cons,
        ih hkeeps hhosts' hrest]
    | false =>
      obtain ⟨name, -, hanswer⟩ := answer_of_not_isFit root d hfit
      have hunfit : ¬ call.isFit = true := by rw [hfit]; decide
      rw [hanswer, fitReplies_cons, if_neg hunfit, List.filter_cons_of_neg hunfit,
        ih h hhosts hrest]

/-- No call of a store in memory fails. -/
theorem exists_of_mem_inMemory {calls : List Call} {s : Shelf} {reply : Reply}
    (h : reply ∈ (inMemory.answerAll calls s).2) : ∃ saved, reply = .ok saved := by
  induction calls generalizing s with
  | nil => cases h
  | cons call rest ih =>
    rw [answerAll_cons] at h
    obtain rfl | hlater := List.mem_cons.mp h
    · cases call with
      | load puzzle team => exact ⟨_, rfl⟩
      | save puzzle team code => exact ⟨_, rfl⟩
    · exact ih hlater

/-- Below a directory that can be made and is empty then, a store that is opened again at
any time answers the calls with names in order as a store in memory does, as long as no
name and no path is too long to be written to. None of these calls fails. All other calls
are refused on any disk, and the disk stays as it is. -/
theorem sitAll_agrees {root : String} {d d' : Disk}
    (hroot : d.makeDirectories root = (d', .ok ()))
    (hempty : ∀ names, names ≠ [] → d'.entry? (Disk.placeOf root ++ names) = none)
    {sittings : List (List Call)}
    (hshort : ∀ call ∈ sittings.flatten, call.isFit = true → call.isShort root = true) :
    fitReplies sittings.flatten (sitAll root sittings d).2 =
        (inMemory.answerAll (sittings.flatten.filter Call.isFit) .empty).2 ∧
      (∀ reply ∈ fitReplies sittings.flatten (sitAll root sittings d).2,
        ∃ saved, reply = .ok saved) ∧
      ∀ call : Call, call.isFit = false → ∀ other : Disk,
        ∃ name, isKey name = false ∧
          (onDisk root).answer other call = (other, .error (.badKey name)) := by
  obtain ⟨hhosts, hkeeps⟩ := hosts_of_empty hroot hempty
  have hsame := hkeeps.answerAll hhosts hshort
  rw [← sitAll_eq] at hsame
  refine ⟨hsame, fun reply hreply => ?_, fun call hfit other => answer_of_not_isFit root other hfit⟩
  rw [hsame] at hreply
  exact exists_of_mem_inMemory hreply

/-- Three sittings in which two teams write scripts for a puzzle. One call has a name
that would lead to another place. -/
def diary : List (List Call) :=
  [[.load "first-steps" "red", .save "first-steps" "red" "move()",
      .save "first-steps" "blue" "log(\"\t1\n\")"],
    [.save "../first-steps" "red" "turn()", .save "first-steps" "red" "turn_left()"],
    [.load "first-steps" "red", .load "first-steps" "blue"]]

/-- What was written in one sitting is there in the next one, and the call that is not
in order leaves no trace. The directory of the store is made by the first save. -/
theorem sitAll_agrees_diary :
    Disk.makeDirectories .empty "store" = (⟨[(["store"], .directory)]⟩, .ok ()) ∧
      (∀ names, names ≠ [] →
        Disk.entry? ⟨[(["store"], .directory)]⟩ (Disk.placeOf "store" ++ names) = none) ∧
      (∀ call ∈ diary.flatten, call.isFit = true → call.isShort "store" = true) ∧
      fitReplies diary.flatten (sitAll "store" diary .empty).2 =
        (inMemory.answerAll (diary.flatten.filter Call.isFit) .empty).2 ∧
      (inMemory.answerAll (diary.flatten.filter Call.isFit) .empty).2 =
        [.ok none, .ok (some ⟨"move()", 1⟩), .ok (some ⟨"log(\"\t1\n\")", 1⟩),
          .ok (some ⟨"turn_left()", 2⟩), .ok (some ⟨"turn_left()", 2⟩),
          .ok (some ⟨"log(\"\t1\n\")", 1⟩)] := by
  have hroot : Disk.makeDirectories .empty "store" = (⟨[(["store"], .directory)]⟩, .ok ()) := by
    decide +kernel
  have hplace : Disk.placeOf "store" = ["store"] := by decide +kernel
  have hempty (names : List String) (hnames : names ≠ []) :
      Disk.entry? ⟨[(["store"], .directory)]⟩ (Disk.placeOf "store" ++ names) = none := by
    have hne : "store" :: names ≠ ["store"] := by simpa using hnames
    rw [hplace, List.singleton_append, Disk.entry?, if_neg (List.cons_ne_nil _ _),
      Disk.lookup_cons_of_ne hne]
    rfl
  have hshort : ∀ call ∈ diary.flatten, call.isFit = true → call.isShort "store" = true := by
    decide +kernel
  have hreplies : (inMemory.answerAll (diary.flatten.filter Call.isFit) .empty).2 =
      [.ok none, .ok (some ⟨"move()", 1⟩), .ok (some ⟨"log(\"\t1\n\")", 1⟩),
        .ok (some ⟨"turn_left()", 2⟩), .ok (some ⟨"turn_left()", 2⟩),
        .ok (some ⟨"log(\"\t1\n\")", 1⟩)] := by
    decide +kernel
  exact ⟨hroot, hempty, hshort, (sitAll_agrees hroot hempty hshort).1, hreplies⟩

end Store

end MazeRobot

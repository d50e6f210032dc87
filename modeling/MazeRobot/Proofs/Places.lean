import MazeRobot.Disk
import Mathlib.Data.List.Basic

/-!
# Places on a disk

A path leads to one place, whatever the disk holds, or it leads nowhere: the
disk decides whether the way exists, but not where it goes. A path and a name
behind it lead to the place of the name below the place of the path. What was
written is read again as long as nothing else is written at the same place,
and directories that are made on the way change nothing that was there before.
-/

namespace MazeRobot.Disk

section Names

/-- The names on a path without the dot that asks for a directory. -/
def plainNames (path : String) : List String :=
  ((path.toList.splitOn '/').map String.ofList).filter (· ≠ "")

/-- The place one name on from a place, if the disk lets one pass. -/
def stepTo (place : List String) (name : String) : List String :=
  if name = "." then place
  else if name = ".." then place.dropLast
  else place ++ [name]

/-- The place that a path leads to, if it leads anywhere. -/
def placeOf (path : String) : List String :=
  (plainNames path).foldl stepTo []

/-- A slash at the end leads to the same place. -/
theorem foldl_names (path : String) : (names path).foldl stepTo [] = placeOf path := by
  unfold names
  dsimp only
  split
  · rw [List.foldl_append, List.foldl_cons, List.foldl_nil, stepTo, if_pos rfl]
    rfl
  · rfl

theorem plainNames_empty : plainNames "" = [] := by decide

/-- A slash splits a path. -/
theorem splitOn_slash {path before behind : String}
    (h : path.toList = before.toList ++ '/' :: behind.toList) :
    path.toList.splitOn '/' = before.toList.splitOn '/' ++ behind.toList.splitOn '/' := by
  rw [h]
  exact List.splitOnP_append_cons _ _ (beq_self_eq_true '/')

/-- The names before and behind a slash are those of the two parts. -/
theorem plainNames_slash {path before behind : String}
    (h : path.toList = before.toList ++ '/' :: behind.toList) :
    plainNames path = plainNames before ++ plainNames behind := by
  rw [plainNames, splitOn_slash h, List.map_append, List.filter_append]
  rfl

theorem exists_of_getLast?_slash {path : String} (h : path.toList.getLast? = some '/') :
    ∃ before : String, path.toList = before.toList ++ ['/'] := by
  obtain ⟨before, hbefore⟩ := List.getLast?_eq_some_iff.mp h
  exact ⟨String.ofList before, by rw [String.toList_ofList, hbefore]⟩

/-- A name behind a path stands alone, or behind a slash and the names of the path. -/
theorem join_cases (path name : String) :
    (path = "" ∧ join path name = name) ∨
      ∃ before : String, plainNames before = plainNames path ∧
        (join path name).toList = before.toList ++ '/' :: name.toList := by
  rw [join]
  split
  · next h =>
    rcases h with rfl | hslash
    · exact .inl ⟨rfl, String.empty_append⟩
    · obtain ⟨before, hbefore⟩ := exists_of_getLast?_slash hslash
      have hpath : plainNames path = plainNames before ++ plainNames "" :=
        plainNames_slash hbefore
      refine .inr ⟨before, ?_, ?_⟩
      · rw [hpath, plainNames_empty, List.append_nil]
      · rw [String.toList_append, hbefore, List.append_assoc]
        rfl
  · refine .inr ⟨path, rfl, ?_⟩
    rw [String.toList_append, String.toList_append, List.append_assoc]
    rfl

/-- A name behind a path stands behind the names of the path. -/
theorem plainNames_join (path name : String) :
    plainNames (join path name) = plainNames path ++ plainNames name := by
  obtain ⟨rfl, hjoin⟩ | ⟨before, hbefore, hjoin⟩ := join_cases path name
  · rw [hjoin, plainNames_empty, List.nil_append]
  · rw [plainNames_slash hjoin, hbefore]

/-- A name that leads one step on from where it stands on a path. -/
structure Plain (name : String) : Prop where
  /-- It is there. -/
  ne_empty : name ≠ ""
  /-- It is one name. -/
  slash : '/' ∉ name.toList
  /-- It does not end a path. -/
  nul : '\x00' ∉ name.toList
  /-- It does not stay. -/
  ne_dot : name ≠ "."
  /-- It does not lead back. -/
  ne_dots : name ≠ ".."

variable {path name : String}

theorem splitOn_of_plain (h : Plain name) : name.toList.splitOn '/' = [name.toList] :=
  List.splitOnP_eq_singleton fun _ hc => beq_false_of_ne fun heq => h.slash (heq ▸ hc)

/-- A plain name is the only one on its path. -/
theorem plainNames_of_plain (h : Plain name) : plainNames name = [name] := by
  rw [plainNames, splitOn_of_plain h, List.map_singleton, String.ofList_toList]
  exact List.filter_cons_of_pos (decide_eq_true h.ne_empty)

theorem stepTo_of_plain (h : Plain name) (place : List String) :
    stepTo place name = place ++ [name] := by
  rw [stepTo, if_neg h.ne_dot, if_neg h.ne_dots]

/-- A plain name behind a path leads one step on. -/
theorem placeOf_join (path : String) (h : Plain name) :
    placeOf (join path name) = placeOf path ++ [name] := by
  rw [placeOf, plainNames_join, plainNames_of_plain h, List.foldl_append, List.foldl_cons,
    List.foldl_nil, stepTo_of_plain h]
  rfl

/-- A plain name behind a path is the last one on it. -/
theorem names_join (path : String) (h : Plain name) :
    names (join path name) = plainNames path ++ [name] := by
  have hlast : (((join path name).toList.splitOn '/').map String.ofList).getLast? = some name := by
    obtain ⟨-, hjoin⟩ | ⟨before, -, hjoin⟩ := join_cases path name
    · rw [hjoin, splitOn_of_plain h, List.map_singleton, String.ofList_toList]
      rfl
    · rw [splitOn_slash hjoin, splitOn_of_plain h, List.map_append, List.map_singleton,
        String.ofList_toList, List.getLast?_concat]
  have hplain := plainNames_join path name
  rw [plainNames_of_plain h] at hplain
  unfold names
  dsimp only
  rw [hlast, if_neg fun hslash => h.ne_empty (Option.some.inj hslash.1)]
  exact hplain

/-- A path that ends with a plain name leads somewhere. -/
theorem join_ne_empty (path : String) (h : Plain name) : join path name ≠ "" := by
  intro hempty
  have hnames := names_join path h
  rw [hempty] at hnames
  exact List.append_ne_nil_of_right_ne_nil _ (List.cons_ne_nil _ _) hnames.symm

theorem unfit?_eq_none_iff (path : String) :
    unfit? path = none ↔ '\x00' ∉ path.toList ∧ path.utf8ByteSize ≤ maxPath := by
  unfold unfit?
  split
  · next hnul => simp [hnul]
  · next hnul => simp [hnul]

theorem not_mem_join {c : Char} (hc : c ≠ '/') (hpath : c ∉ path.toList)
    (hname : c ∉ name.toList) : c ∉ (join path name).toList := by
  rw [join]
  split
  · rw [String.toList_append, List.mem_append]
    exact not_or.mpr ⟨hpath, hname⟩
  · rw [String.toList_append, String.toList_append, List.mem_append, List.mem_append]
    exact not_or.mpr ⟨not_or.mpr ⟨hpath, by simpa using hc⟩, hname⟩

/-- A name makes a path longer. -/
theorem utf8ByteSize_le_join (path name : String) :
    path.utf8ByteSize ≤ (join path name).utf8ByteSize := by
  rw [join]
  split
  · rw [String.utf8ByteSize_append]
    omega
  · rw [String.utf8ByteSize_append, String.utf8ByteSize_append]
    omega

end Names

section Walks

variable {d d' : Disk}

theorem enter_eq_ok {place next : List String} {name : String}
    (h : d.enter place name = .ok next) :
    d.entry? place = some .directory ∧ next = stepTo place name := by
  rw [enter] at h
  split at h
  · cases h
  · cases h
  · next hentry =>
    refine ⟨hentry, ?_⟩
    rw [stepTo]
    split at h
    · next hdot => rw [if_pos hdot]; exact (Except.ok.inj h).symm
    · next hdot =>
      rw [if_neg hdot]
      split at h
      · next hdots => rw [if_pos hdots]; exact (Except.ok.inj h).symm
      · next hdots =>
        rw [if_neg hdots]
        split at h
        · cases h
        · exact (Except.ok.inj h).symm

/-- One can pass where one could pass before, as long as directories stay. -/
theorem enter_mono (hdirs : ∀ q, d.entry? q = some .directory → d'.entry? q = some .directory)
    {place next : List String} {name : String} (h : d.enter place name = .ok next) :
    d'.enter place name = .ok next := by
  have hentry := (enter_eq_ok h).1
  rw [enter, hentry] at h
  rw [enter, hdirs place hentry]
  exact h

theorem walk_eq_ok {place target : List String} {names : List String}
    (h : d.walk place names = .ok target) : target = names.foldl stepTo place := by
  induction names generalizing place with
  | nil => exact (Except.ok.inj h).symm
  | cons name rest ih =>
    rw [walk] at h
    split at h
    · cases h
    · next next hnext =>
      rw [ih h, (enter_eq_ok hnext).2]
      rfl

theorem walk_mono (hdirs : ∀ q, d.entry? q = some .directory → d'.entry? q = some .directory)
    {place target : List String} {names : List String} (h : d.walk place names = .ok target) :
    d'.walk place names = .ok target := by
  induction names generalizing place with
  | nil => exact h
  | cons name rest ih =>
    rw [walk] at h
    split at h
    · cases h
    · next next hnext =>
      rw [walk, enter_mono hdirs hnext]
      exact ih h

/-- A path that leads anywhere leads to its place. -/
theorem resolve_eq_ok {path : String} {place : List String} (h : d.resolve path = .ok place) :
    place = placeOf path := by
  rw [resolve] at h
  split at h
  · cases h
  · split at h
    · cases h
    · rw [← foldl_names]
      exact walk_eq_ok h

theorem resolve_mono (hdirs : ∀ q, d.entry? q = some .directory → d'.entry? q = some .directory)
    {path : String} {place : List String} (h : d.resolve path = .ok place) :
    d'.resolve path = .ok place := by
  rw [resolve] at h ⊢
  split at h
  · cases h
  · split at h
    · cases h
    · next hpath =>
      rw [if_neg hpath]
      exact walk_mono hdirs h

/-- What is read is the file at the place. -/
theorem read_eq_ok {path text : String} (h : d.read path = .ok text) :
    d.resolve path = .ok (placeOf path) ∧ d.entry? (placeOf path) = some (.file text) := by
  rw [read] at h
  split at h
  · cases h
  · next place hplace =>
    obtain rfl := resolve_eq_ok hplace
    split at h
    · cases h
    · cases h
    · next hentry =>
      obtain rfl := Except.ok.inj h
      exact ⟨hplace, hentry⟩

/-- A file is read again as long as directories stay and nothing else is written at
its place. -/
theorem read_of_entry?_eq
    (hdirs : ∀ q, d.entry? q = some .directory → d'.entry? q = some .directory) {path text : String}
    (hsame : d'.entry? (placeOf path) = d.entry? (placeOf path)) (h : d.read path = .ok text) :
    d'.read path = .ok text := by
  obtain ⟨hplace, hentry⟩ := read_eq_ok h
  rw [read, resolve_mono hdirs hplace]
  simp only [hsame, hentry]

end Walks

section Puts

variable {d d' : Disk}

theorem lookup_cons_of_ne {key other : List String} (h : other ≠ key) (held : Entry)
    (rest : List (List String × Entry)) :
    ((key, held) :: rest).lookup other = rest.lookup other := by
  rw [List.lookup_cons, beq_false_of_ne h]

theorem lookup_append_singleton (place other : List String) (entry : Entry)
    (entries : List (List String × Entry)) (hnone : entries.lookup place = none) :
    (entries ++ [(place, entry)]).lookup other =
      if other = place then some entry else entries.lookup other := by
  rw [List.lookup_append]
  by_cases h : other = place
  · rw [if_pos h, h, hnone, List.lookup_cons_self]
    rfl
  · rw [if_neg h, lookup_cons_of_ne h]
    exact Option.or_none

theorem lookup_map_replace (place other : List String) (entry : Entry)
    (entries : List (List String × Entry)) :
    (entries.map fun e => if e.1 = place then (place, entry) else e).lookup other =
      if other = place then (entries.lookup place).map fun _ => entry
      else entries.lookup other := by
  induction entries with
  | nil => split <;> rfl
  | cons e rest ih =>
    obtain ⟨key, held⟩ := e
    rw [List.map_cons]
    by_cases hkey : key = place
    · rw [if_pos hkey, hkey, List.lookup_cons_self, Option.map_some]
      by_cases h : other = place
      · rw [if_pos h, h, List.lookup_cons_self]
      · rw [if_neg h, lookup_cons_of_ne h, lookup_cons_of_ne h, ih, if_neg h]
    · rw [if_neg hkey, lookup_cons_of_ne (Ne.symm hkey)]
      by_cases h : other = key
      · rw [h, List.lookup_cons_self, List.lookup_cons_self, if_neg hkey]
      · rw [lookup_cons_of_ne h, lookup_cons_of_ne h, ih]

/-- What was put at a place stands there, and nothing else changed. The top is always a
directory. -/
theorem entry?_put {place : List String} (hplace : place ≠ []) (other : List String)
    (entry : Entry) :
    entry? (d.put place entry) other = if other = place then some entry else d.entry? other := by
  have hlookup : (d.put place entry).entries.lookup other =
      if other = place then some entry else d.entries.lookup other := by
    rw [put]
    split
    · next hsome =>
      obtain ⟨held, hheld⟩ := Option.isSome_iff_exists.mp hsome
      rw [lookup_map_replace, hheld, Option.map_some]
    · next hnone =>
      exact lookup_append_singleton place other entry d.entries
        (Option.not_isSome_iff_eq_none.mp hnone)
  rw [Disk.entry?, Disk.entry?, hlookup]
  by_cases htop : other = []
  · rw [if_pos htop, if_pos htop, htop, if_neg (Ne.symm hplace)]
  · rw [if_neg htop, if_neg htop]

/-- A disk that has grown: what stood there stands there still, and no file is new. -/
structure Grows (d d' : Disk) : Prop where
  /-- What stood there stands there still. -/
  keeps : ∀ place entry, d.entry? place = some entry → d'.entry? place = some entry
  /-- No file is new. -/
  files : ∀ place text, d'.entry? place = some (.file text) → d.entry? place = some (.file text)

theorem Grows.refl (d : Disk) : Grows d d :=
  ⟨fun _ _ h => h, fun _ _ h => h⟩

theorem Grows.trans {d'' : Disk} (h : Grows d d') (h' : Grows d' d'') : Grows d d'' :=
  ⟨fun place entry hentry => h'.keeps place entry (h.keeps place entry hentry),
    fun place text hfile => h.files place text (h'.files place text hfile)⟩

/-- A directory that is made where nothing stood lets the disk grow. -/
theorem grows_put_directory {place : List String} (hnone : d.entry? place = none) :
    Grows d (d.put place .directory) := by
  have hplace : place ≠ [] := by
    rintro rfl
    cases hnone
  refine ⟨fun other entry hentry => ?_, fun other text hfile => ?_⟩
  · rw [entry?_put hplace, if_neg, hentry]
    rintro rfl
    rw [hnone] at hentry
    cases hentry
  · rw [entry?_put hplace] at hfile
    split at hfile
    · cases hfile
    · exact hfile

theorem grows_makeAlong (place names : List String) (d : Disk) :
    Grows d (makeAlong place names d).1 := by
  induction names generalizing place d with
  | nil => exact .refl d
  | cons name rest ih =>
    rw [makeAlong]
    split
    · exact .refl d
    · next next _ =>
      split
      · next hnone => exact (grows_put_directory hnone).trans (ih next _)
      · exact ih next d
      · exact .refl d

/-- Making directories lets the disk grow, also where it fails. -/
theorem grows_makeDirectories (d : Disk) (path : String) :
    Grows d (d.makeDirectories path).1 := by
  rw [makeDirectories]
  split
  · exact .refl d
  · exact grows_makeAlong [] (names path) d

/-- A file that could be written stands at its place, where no directory was. -/
theorem write_eq_ok {path text : String} (h : d.write path text = .ok d') :
    d.resolve path = .ok (placeOf path) ∧ d.entry? (placeOf path) ≠ some .directory ∧
      d' = d.put (placeOf path) (.file text) := by
  rw [write] at h
  split at h
  · cases h
  · next place hplace =>
    obtain rfl := resolve_eq_ok hplace
    split at h
    · cases h
    · next hentry => exact ⟨hplace, hentry, (Except.ok.inj h).symm⟩

section Write

variable {path text : String}

/-- What stands where after a file was written. -/
theorem entry?_write (h : d.write path text = .ok d') (other : List String) :
    d'.entry? other = if other = placeOf path then some (.file text) else d.entry? other := by
  obtain ⟨-, hentry, rfl⟩ := write_eq_ok h
  refine entry?_put ?_ other _
  intro htop
  rw [htop] at hentry
  exact hentry rfl

theorem directory_write (h : d.write path text = .ok d') (q : List String)
    (hq : d.entry? q = some .directory) : d'.entry? q = some .directory := by
  have hne : q ≠ placeOf path := by
    rintro rfl
    exact (write_eq_ok h).2.1 hq
  rw [entry?_write h, if_neg hne, hq]

/-- What was written is read. -/
theorem read_write (h : d.write path text = .ok d') : d'.read path = .ok text := by
  have hplace := resolve_mono (directory_write h) (write_eq_ok h).1
  have hentry := entry?_write h (placeOf path)
  rw [if_pos rfl] at hentry
  rw [read, hplace]
  simp only [hentry]

/-- A file at another place is read as before. -/
theorem read_write_of_ne (h : d.write path text = .ok d') {other held : String}
    (hne : placeOf other ≠ placeOf path) (hread : d.read other = .ok held) :
    d'.read other = .ok held := by
  refine read_of_entry?_eq (directory_write h) ?_ hread
  rw [entry?_write h, if_neg hne]

end Write

/-- A file is read as before from a disk that has grown. -/
theorem Grows.read (h : Grows d d') {path text : String} (hread : d.read path = .ok text) :
    d'.read path = .ok text := by
  have hentry := (read_eq_ok hread).2
  refine read_of_entry?_eq (fun q hq => h.keeps q _ hq) ?_ hread
  rw [hentry, h.keeps _ _ hentry]

end Puts

end MazeRobot.Disk

import MazeRobot.Proofs.Places

/-!
# Making directories

Directories that could be made along a path can be walked along from then on, and making
them again makes nothing new. Behind such a path a plain name can be made a directory,
unless there is a file, and in that directory a file can be written, unless there is a
directory. For names and paths that are not too long nothing else can go wrong.
-/

namespace MazeRobot.Disk

variable {d d' d'' : Disk} {place target names : List String} {name path : String}

/-! ### Along some names -/

/-- The directories along some names can be made if the first one can, or is there, and
then the others. -/
theorem makeAlong_cons_eq_ok (h : makeAlong place (name :: names) d = (d', .ok ())) :
    d.enter place name = .ok (stepTo place name) ∧
      ((d.entry? (stepTo place name) = none ∧
          makeAlong (stepTo place name) names (d.put (stepTo place name) .directory) =
            (d', .ok ())) ∨
        d.entry? (stepTo place name) = some .directory ∧
          makeAlong (stepTo place name) names d = (d', .ok ())) := by
  rw [makeAlong] at h
  split at h
  · cases h
  · next next hnext =>
    obtain ⟨-, rfl⟩ := enter_eq_ok hnext
    split at h
    · next hnone => exact ⟨hnext, .inl ⟨hnone, h⟩⟩
    · next hdir => exact ⟨hnext, .inr ⟨hdir, h⟩⟩
    · cases h

/-- More directories are made from where the names before lead. -/
theorem makeAlong_append (h : makeAlong place names d = (d', .ok ())) (later : List String) :
    makeAlong place (names ++ later) d = makeAlong (names.foldl stepTo place) later d' := by
  induction names generalizing place d with
  | nil =>
    cases h
    rfl
  | cons name rest ih =>
    obtain ⟨henter, ⟨hnone, hrest⟩ | ⟨hdir, hrest⟩⟩ := makeAlong_cons_eq_ok h
    · rw [List.cons_append, makeAlong, henter]
      simp only [hnone]
      exact ih hrest
    · rw [List.cons_append, makeAlong, henter]
      simp only [hdir]
      exact ih hrest

/-- A dot at the end asks for nothing more. -/
theorem makeAlong_of_append_dot (h : makeAlong place (names ++ ["."]) d = (d', .ok ())) :
    makeAlong place names d = (d', .ok ()) := by
  induction names generalizing place d with
  | nil =>
    obtain ⟨henter, ⟨hnone, -⟩ | ⟨-, hrest⟩⟩ := makeAlong_cons_eq_ok h
    · rw [stepTo, if_pos rfl, (enter_eq_ok henter).1] at hnone
      cases hnone
    · exact hrest
  | cons name rest ih =>
    obtain ⟨henter, ⟨hnone, hrest⟩ | ⟨hdir, hrest⟩⟩ := makeAlong_cons_eq_ok h
    · rw [makeAlong, henter]
      simp only [hnone]
      exact ih hrest
    · rw [makeAlong, henter]
      simp only [hdir]
      exact ih hrest

theorem grows_of_makeAlong (h : makeAlong place names d = (d', .ok ())) : Grows d d' := by
  have hgrows := grows_makeAlong place names d
  rwa [h] at hgrows

/-- Where the names lead, there is a directory then. -/
theorem directory_of_makeAlong (h : makeAlong place names d = (d', .ok ()))
    (hplace : d.entry? place = some .directory) :
    d'.entry? (names.foldl stepTo place) = some .directory := by
  induction names generalizing place d with
  | nil =>
    cases h
    exact hplace
  | cons name rest ih =>
    obtain ⟨-, ⟨hnone, hrest⟩ | ⟨hdir, hrest⟩⟩ := makeAlong_cons_eq_ok h
    · refine ih hrest ?_
      have htop : stepTo place name ≠ [] := by
        intro htop
        rw [htop] at hnone
        cases hnone
      rw [entry?_put htop, if_pos rfl]
    · exact ih hrest hdir

/-- Directories that were made are there when they are to be made again. -/
theorem makeAlong_again (h : makeAlong place names d = (d', .ok ()))
    (hdirs : ∀ q, d'.entry? q = some .directory → d''.entry? q = some .directory) :
    makeAlong place names d'' = (d'', .ok ()) := by
  induction names generalizing place d with
  | nil => rfl
  | cons name rest ih =>
    have hgrows := grows_of_makeAlong h
    obtain ⟨henter, hmade⟩ := makeAlong_cons_eq_ok h
    have hpass : d''.enter place name = .ok (stepTo place name) :=
      enter_mono (fun q hq => hdirs q (hgrows.keeps q _ hq)) henter
    have hstep : d''.entry? (stepTo place name) = some .directory ∧
        makeAlong (stepTo place name) rest d'' = (d'', .ok ()) := by
      obtain ⟨hnone, hrest⟩ | ⟨hdir, hrest⟩ := hmade
      · have htop : stepTo place name ≠ [] := by
          intro htop
          rw [htop] at hnone
          cases hnone
        have hput : Disk.entry? (d.put (stepTo place name) .directory) (stepTo place name) =
            some .directory := by
          rw [entry?_put htop, if_pos rfl]
        exact ⟨hdirs _ ((grows_of_makeAlong hrest).keeps _ _ hput), ih hrest⟩
      · exact ⟨hdirs _ (hgrows.keeps _ _ hdir), ih hrest⟩
    rw [makeAlong, hpass]
    simp only [hstep.1]
    exact hstep.2

/-- Directories that were made can be walked along. -/
theorem walk_of_makeAlong (h : makeAlong place names d = (d', .ok ())) :
    d'.walk place names = .ok (names.foldl stepTo place) := by
  induction names generalizing place d with
  | nil => rfl
  | cons name rest ih =>
    have hgrows := grows_of_makeAlong h
    obtain ⟨henter, hmade⟩ := makeAlong_cons_eq_ok h
    rw [walk, enter_mono (fun q hq => hgrows.keeps q _ hq) henter]
    obtain ⟨-, hrest⟩ | ⟨-, hrest⟩ := hmade
    · exact ih hrest
    · exact ih hrest

theorem walk_append (h : d.walk place names = .ok target) (later : List String) :
    d.walk place (names ++ later) = d.walk target later := by
  induction names generalizing place with
  | nil =>
    cases h
    rfl
  | cons name rest ih =>
    rw [walk] at h
    rw [List.cons_append, walk]
    split at h
    · cases h
    · exact ih h

/-! ### Below a path -/

/-- A path that leads to a directory. -/
structure Leads (d : Disk) (path : String) : Prop where
  /-- One can walk along its names. -/
  walk : d.walk [] (plainNames path) = .ok (placeOf path)
  /-- A directory is there. -/
  place : d.entry? (placeOf path) = some .directory

/-- A path leads to a directory as long as directories stay. -/
theorem Leads.mono (h : Leads d path)
    (hdirs : ∀ q, d.entry? q = some .directory → d'.entry? q = some .directory) :
    Leads d' path :=
  ⟨walk_mono hdirs h.walk, hdirs _ h.place⟩

/-- So does a path of which the directories were made. -/
theorem leads_of_makeAlong (h : makeAlong [] (plainNames path) d = (d', .ok ())) :
    Leads d' path :=
  ⟨walk_of_makeAlong h, directory_of_makeAlong h rfl⟩

/-- A path of which the directories could be made is one on its own. -/
theorem makeDirectories_eq_ok (h : d.makeDirectories path = (d', .ok ())) :
    unfit? path = none ∧ makeAlong [] (plainNames path) d = (d', .ok ()) := by
  rw [makeDirectories] at h
  split at h
  · cases h
  · next hfit =>
    refine ⟨hfit, ?_⟩
    unfold Disk.names at h
    dsimp only at h
    split at h
    · exact makeAlong_of_append_dot h
    · exact h

/-- A plain name that is not too long can be entered. -/
theorem enter_of_plain (hplace : d.entry? place = some .directory) (h : Plain name)
    (hshort : name.utf8ByteSize ≤ maxName) : d.enter place name = .ok (place ++ [name]) := by
  rw [enter, hplace]
  simp only [if_neg h.ne_dot, if_neg h.ne_dots, if_neg (Nat.not_lt.mpr hshort)]

/-- Where a path leads to a directory, a plain name behind it leads one step on. -/
theorem Leads.walk_concat (hpath : Leads d path) (h : Plain name)
    (hshort : name.utf8ByteSize ≤ maxName) :
    d.walk [] (plainNames path ++ [name]) = .ok (placeOf path ++ [name]) := by
  rw [walk_append hpath.walk, Disk.walk, enter_of_plain hpath.place h hshort]
  rfl

/-- If a directory is there, the longer path leads to it. -/
theorem Leads.join (hpath : Leads d path) (h : Plain name) (hshort : name.utf8ByteSize ≤ maxName)
    (hplace : d.entry? (placeOf path ++ [name]) = some .directory) :
    Leads d (Disk.join path name) := by
  constructor
  · rw [plainNames_join, plainNames_of_plain h, placeOf_join _ h]
    exact hpath.walk_concat h hshort
  · rw [placeOf_join _ h]
    exact hplace

/-- Behind a path of which the directories can be made, a directory can be made unless
there is a file. That makes nothing else. -/
theorem makeDirectories_join (hmade : makeAlong [] (plainNames path) d = (d', .ok ()))
    (h : Plain name) (hshort : name.utf8ByteSize ≤ maxName)
    (hfit : unfit? (join path name) = none)
    (hfree : ∀ text, d'.entry? (placeOf path ++ [name]) ≠ some (.file text)) :
    ∃ d₁, d.makeDirectories (join path name) = (d₁, .ok ()) ∧ Grows d' d₁ ∧
      Leads d₁ (join path name) ∧
      ∀ other ≠ placeOf path ++ [name], Disk.entry? d₁ other = d'.entry? other := by
  have hleads := leads_of_makeAlong hmade
  have hdone : d.makeDirectories (join path name) = makeAlong (placeOf path) [name] d' := by
    rw [makeDirectories, hfit]
    simp only [names_join path h, makeAlong_append hmade]
    rfl
  rw [hdone, makeAlong, enter_of_plain hleads.place h hshort]
  dsimp only
  cases hentry : d'.entry? (placeOf path ++ [name]) with
  | none =>
    have hne : placeOf path ++ [name] ≠ [] := List.append_ne_nil_of_right_ne_nil _ (by simp)
    have hgrows := grows_put_directory hentry
    refine ⟨_, rfl, hgrows, ?_, fun other hother => ?_⟩
    · refine (hleads.mono fun q hq => hgrows.keeps q _ hq).join h hshort ?_
      rw [entry?_put hne, if_pos rfl]
    · rw [entry?_put hne, if_neg hother]
  | some entry =>
    cases entry with
    | directory => exact ⟨_, rfl, .refl d', hleads.join h hshort hentry, fun _ _ => rfl⟩
    | file text => exact absurd hentry (hfree text)

/-- In a directory that a path leads to, a file can be written unless there is a
directory. -/
theorem Leads.exists_write (hpath : Leads d path) (h : Plain name)
    (hshort : name.utf8ByteSize ≤ maxName) (hfit : unfit? (Disk.join path name) = none)
    (hfree : d.entry? (placeOf path ++ [name]) ≠ some .directory) (text : String) :
    ∃ d₁, d.write (Disk.join path name) text = .ok d₁ := by
  have hresolve : d.resolve (Disk.join path name) = .ok (placeOf path ++ [name]) := by
    rw [resolve, hfit]
    simp only [if_neg (join_ne_empty path h), names_join path h]
    exact hpath.walk_concat h hshort
  rw [write, hresolve]
  dsimp only
  split
  · next hdir => exact absurd hdir hfree
  · exact ⟨_, rfl⟩

/-! ### What can go wrong with reading -/

/-- A fault that tells that a path leads nowhere. -/
def Fault.IsAstray (f : Fault) : Prop :=
  f = .missing ∨ f = .notDirectory ∨ f = .tooLong ∨ f = .unnameable

theorem isAstray_of_walk {f : Fault} (h : d.walk place names = .error f) : f.IsAstray := by
  induction names generalizing place with
  | nil => cases h
  | cons name rest ih =>
    rw [walk] at h
    split at h
    · next hentry =>
      cases h
      unfold enter at hentry
      unfold Fault.IsAstray
      split at hentry
      · cases hentry
        simp
      · cases hentry
        simp
      · split at hentry
        · cases hentry
        · split at hentry
          · cases hentry
          · split at hentry
            · cases hentry
              simp
            · cases hentry
    · exact ih h

/-- What cannot be read is not there, or it is a directory. -/
theorem isAstray_of_read {f : Fault} (h : d.read path = .error f)
    (hfree : d.entry? (placeOf path) ≠ some .directory) : f.IsAstray := by
  rw [read] at h
  split at h
  · next hresolve =>
    cases h
    rw [resolve] at hresolve
    split at hresolve
    · next hunfit =>
      cases hresolve
      unfold unfit? at hunfit
      unfold Fault.IsAstray
      split at hunfit
      · cases hunfit
        simp
      · split at hunfit
        · cases hunfit
          simp
        · cases hunfit
    · split at hresolve
      · cases hresolve
        exact .inl rfl
      · exact isAstray_of_walk hresolve
  · next place hplace =>
    obtain rfl := resolve_eq_ok hplace
    split at h
    · cases h
      exact .inl rfl
    · next hdir => exact absurd hdir hfree
    · cases h

end MazeRobot.Disk

import MazeRobot.Options
import MazeRobot.Proofs.Numerals

/-!
# What a command line says

Arguments that are in order are pairs of a known flag and a value that means
something to it. Then every option is what the last of its values means, and what it
was at first if it has none. Arguments that are not in order begin with such pairs
and then with something that offends, and there the fault comes from, whatever else
follows.
-/

namespace MazeRobot

namespace Mode

/-- The words that name a mode. -/
def words : Mode → List String
  | list => ["list"]
  | headless => ["headless", "json"]
  | play => ["play", "realtime"]

/-- The mode that a text names, in whatever case. -/
def meant? (text : String) : Option Mode :=
  [list, headless, play].find? fun mode => text.map Char.toLower ∈ mode.words

theorem ofWord?_toLower (text : String) : ofWord? (text.map Char.toLower) = meant? text := by
  unfold ofWord? meant? words
  grind

end Mode

namespace Options

/-- The flags that there are. -/
inductive Flag where
  | mode | puzzle | script | catalog | config | team | store | delay | maxSteps | maxTicks
  deriving DecidableEq

/-- What kind of values a flag takes. -/
inductive Kind where
  /-- The words that name a mode. -/
  | mode
  /-- Any text. -/
  | text
  /-- Numerals of numbers that so many bits can hold. -/
  | number (bits : Nat)
  deriving DecidableEq

/-- What a value means. -/
inductive Meaning where
  /-- A mode. -/
  | mode (mode : Mode)
  /-- A text. -/
  | text (text : String)
  /-- A number. -/
  | number (n : Nat)
  deriving DecidableEq

namespace Flag

/-- The name of a flag. -/
def name : Flag → String
  | mode => "mode"
  | puzzle => "puzzle"
  | script => "script"
  | catalog => "catalog"
  | config => "config"
  | team => "team"
  | store => "store"
  | delay => "delay"
  | maxSteps => "max-steps"
  | maxTicks => "max-ticks"

/-- The kind of values that it takes. -/
def kind : Flag → Kind
  | mode => .mode
  | puzzle | script | catalog | config | team | store => .text
  | delay => .number 64
  | maxSteps | maxTicks => .number 32

end Flag

/-- What a value means to a flag that takes values of some kind. -/
def Kind.meaning? : Kind → String → Option Meaning
  | mode, value => (Mode.meant? value).map .mode
  | text, value => some (.text value)
  | number bits, value =>
    ((Numeral.decimal? value.toList).filter (· < Nat.pow 2 bits)).map .number

/-- What an option is, if it is set; there always is a mode. -/
def held (o : Options) : Flag → Option Meaning
  | .mode => some (.mode o.mode)
  | .puzzle => o.puzzle.map .text
  | .script => o.script.map .text
  | .catalog => o.catalog.map .text
  | .config => o.config.map .text
  | .team => o.team.map .text
  | .store => o.store.map .text
  | .delay => o.overrides.delay.map (.number ·.toNat)
  | .maxSteps => o.overrides.maxSteps.map (.number ·.toNat)
  | .maxTicks => o.overrides.maxTicks.map (.number ·.toNat)

/-- A flag with a value for it. -/
abbrev Pair := Flag × String

/-- Whether the value means something to the flag. -/
def Fits (p : Pair) : Prop := (p.1.kind.meaning? p.2).isSome

/-- Pairs spelled out as arguments. -/
def spelled (pairs : List Pair) : List String :=
  pairs.flatMap fun p => ["--" ++ p.1.name, p.2]

/-- What the last of the values for a flag means. -/
def lastMeaning? (pairs : List Pair) (flag : Flag) : Option Meaning :=
  (pairs.reverse.lookup flag).bind flag.kind.meaning?

/-- What is wrong at the beginning of some arguments. -/
inductive Offends : List String → Fault → Prop where
  /-- The first of them is no flag. -/
  | notFlag {argument : String} (rest : List String) (bad : ∀ name, argument ≠ "--" ++ name) :
    Offends (argument :: rest) (.notFlag argument)
  /-- It is a flag, and nothing follows. -/
  | noValue (name : String) : Offends ["--" ++ name] (.noValue ("--" ++ name))
  /-- No flag has the name. -/
  | unknownFlag {name : String} (value : String) (rest : List String)
      (unknown : ∀ flag : Flag, flag.name ≠ name) :
    Offends (("--" ++ name) :: value :: rest) (.unknownFlag ("--" ++ name))
  /-- The value names no mode. -/
  | badMode {flag : Flag} {value : String} (rest : List String) (kind : flag.kind = .mode)
      (bad : Mode.meant? value = none) :
    Offends (("--" ++ flag.name) :: value :: rest) (.badMode (value.map Char.toLower))
  /-- The value is no numeral of a number that the bits can hold. -/
  | badNumber {flag : Flag} {bits : Nat} {value : String} {fault : Numeral.Fault}
      (rest : List String) (kind : flag.kind = .number bits)
      (refused : Numeral.Refused (Nat.pow 2 bits - 1) value.toList fault) :
    Offends (("--" ++ flag.name) :: value :: rest) (.badNumber flag.name value fault)

theorem flagName?_dashes (name : String) : flagName? ("--" ++ name) = some name := by
  simp [flagName?]

theorem eq_dashes_of_flagName? {argument name : String} (h : flagName? argument = some name) :
    argument = "--" ++ name := by
  unfold flagName? at h
  split at h
  next rest hargument =>
    obtain rfl := Option.some.inj h
    rw [← String.toList_inj, hargument]
    simp
  next => cases h

section Set

variable {flag : Flag} {bits : Nat} {name value : String} {m : Meaning}

theorem meaning?_number {n : Nat} : (Kind.number bits).meaning? value = some (.number n) ↔
    Numeral.decimal? value.toList = some n ∧ n < Nat.pow 2 bits := by
  simp [Kind.meaning?, Option.filter_eq_some_iff]

theorem number_of_meaning (h : (Kind.number bits).meaning? value = some m) (name : String) :
    ∃ n, m = .number n ∧ n < Nat.pow 2 bits ∧ number bits name value = .ok n := by
  obtain ⟨n, -, rfl⟩ := Option.map_eq_some_iff.mp h
  obtain ⟨hdecimal, hn⟩ := meaning?_number.mp h
  have hread : Numeral.natural (Nat.pow 2 bits - 1) value.toList = .ok n :=
    Numeral.natural_eq_ok hdecimal (Nat.le_sub_one_of_lt hn)
  exact ⟨n, rfl, hn, by rw [number, hread]⟩

theorem number_of_refused {fault : Numeral.Fault}
    (refused : Numeral.Refused (Nat.pow 2 bits - 1) value.toList fault) (name : String) :
    number bits name value = .error (.badNumber name value fault) := by
  have hread : Numeral.natural (Nat.pow 2 bits - 1) value.toList = .error fault :=
    refused.natural_eq_error
  rw [number, hread]

/-- A value that means something to its flag goes into that option, and the others
stay. -/
theorem set_of_meaning (h : flag.kind.meaning? value = some m) (o : Options) :
    ∃ o', o.set flag.name value = .ok o' ∧ o'.held flag = some m ∧
      ∀ other, other ≠ flag → o'.held other = o.held other := by
  cases flag with
  | mode =>
    obtain ⟨mode, hmode, rfl⟩ := Option.map_eq_some_iff.mp h
    rw [← Mode.ofWord?_toLower] at hmode
    refine ⟨{ o with mode := mode }, by simp only [set, Flag.name, if_true, hmode], rfl,
      fun other hother => ?_⟩
    cases other <;> first | rfl | exact absurd rfl hother
  | delay =>
    obtain ⟨n, rfl, hn, hnumber⟩ := number_of_meaning h "delay"
    refine ⟨{ o with overrides := { o.overrides with delay := some (.ofNat n) } },
      by simp only [set, Flag.name, String.reduceEq, if_false, if_true, hnumber],
      congrArg (some ∘ Meaning.number) (UInt64.toNat_ofNat_of_lt' hn), fun other hother => ?_⟩
    cases other <;> first | rfl | exact absurd rfl hother
  | maxSteps =>
    obtain ⟨n, rfl, hn, hnumber⟩ := number_of_meaning h "max-steps"
    refine ⟨{ o with overrides := { o.overrides with maxSteps := some (.ofNat n) } },
      by simp only [set, Flag.name, String.reduceEq, if_false, if_true, hnumber],
      congrArg (some ∘ Meaning.number) (UInt32.toNat_ofNat_of_lt' hn), fun other hother => ?_⟩
    cases other <;> first | rfl | exact absurd rfl hother
  | maxTicks =>
    obtain ⟨n, rfl, hn, hnumber⟩ := number_of_meaning h "max-ticks"
    refine ⟨{ o with overrides := { o.overrides with maxTicks := some (.ofNat n) } },
      by simp only [set, Flag.name, String.reduceEq, if_false, if_true, hnumber],
      congrArg (some ∘ Meaning.number) (UInt32.toNat_ofNat_of_lt' hn), fun other hother => ?_⟩
    cases other <;> first | rfl | exact absurd rfl hother
  | _ =>
    obtain rfl := Option.some.inj h
    refine ⟨_, by simp only [set, Flag.name, String.reduceEq, if_false, if_true]; rfl, rfl,
      fun other hother => ?_⟩
    cases other <;> first | rfl | exact absurd rfl hother

/-- What no flag is called is unknown. -/
theorem set_of_unknown (unknown : ∀ flag : Flag, flag.name ≠ name) (o : Options) (value : String) :
    o.set name value = .error (.unknownFlag ("--" ++ name)) := by
  have hne (flag : Flag) : name ≠ flag.name := (unknown flag).symm
  exact (if_neg (hne .mode)).trans <| (if_neg (hne .puzzle)).trans <|
    (if_neg (hne .script)).trans <| (if_neg (hne .catalog)).trans <|
    (if_neg (hne .config)).trans <| (if_neg (hne .team)).trans <|
    (if_neg (hne .store)).trans <| (if_neg (hne .delay)).trans <|
    (if_neg (hne .maxSteps)).trans <| if_neg (hne .maxTicks)

/-- A word that names no mode is told in lower case. -/
theorem set_of_badMode (kind : flag.kind = .mode) (bad : Mode.meant? value = none) (o : Options) :
    o.set flag.name value = .error (.badMode (value.map Char.toLower)) := by
  cases flag <;> cases kind
  simp only [set, Flag.name, if_true, Mode.ofWord?_toLower, bad]

/-- A numeral that is refused is told with the reason. -/
theorem set_of_badNumber {fault : Numeral.Fault} (kind : flag.kind = .number bits)
    (refused : Numeral.Refused (Nat.pow 2 bits - 1) value.toList fault) (o : Options) :
    o.set flag.name value = .error (.badNumber flag.name value fault) := by
  have hnumber := number_of_refused refused
  cases flag <;> cases kind <;>
    simp only [set, Flag.name, String.reduceEq, if_false, if_true, hnumber]

/-- Options that hold the same are the same. -/
theorem ext_held {o o' : Options} (h : ∀ flag, o.held flag = o'.held flag) : o = o' := by
  have htext (a b : Option String) : a.map Meaning.text = b.map Meaning.text → a = b :=
    (Option.map_inj_right fun _ _ => Meaning.text.inj).mp
  have hword (a b : Option UInt32) :
      a.map (Meaning.number ·.toNat) = b.map (Meaning.number ·.toNat) → a = b :=
    (Option.map_inj_right fun _ _ heq => UInt32.toNat_inj.mp (Meaning.number.inj heq)).mp
  have hdelay : o.overrides.delay = o'.overrides.delay :=
    (Option.map_inj_right fun _ _ heq => UInt64.toNat_inj.mp (Meaning.number.inj heq)).mp (h .delay)
  obtain ⟨mode, puzzle, script, catalog, config, team, store, delay, maxSteps, maxTicks⟩ := o
  obtain ⟨mode', puzzle', script', catalog', config', team', store', delay', maxSteps',
    maxTicks'⟩ := o'
  obtain rfl : mode = mode' := Meaning.mode.inj (Option.some.inj (h .mode))
  obtain rfl : puzzle = puzzle' := htext _ _ (h .puzzle)
  obtain rfl : script = script' := htext _ _ (h .script)
  obtain rfl : catalog = catalog' := htext _ _ (h .catalog)
  obtain rfl : config = config' := htext _ _ (h .config)
  obtain rfl : team = team' := htext _ _ (h .team)
  obtain rfl : store = store' := htext _ _ (h .store)
  obtain rfl : delay = delay' := hdelay
  obtain rfl : maxSteps = maxSteps' := hword _ _ (h .maxSteps)
  obtain rfl : maxTicks = maxTicks' := hword _ _ (h .maxTicks)
  rfl

end Set

section Loop

theorem spelled_cons (p : Pair) (pairs : List Pair) (rest : List String) :
    spelled (p :: pairs) ++ rest = ("--" ++ p.1.name) :: p.2 :: (spelled pairs ++ rest) := rfl

/-- A value counts if there is no later one for its flag. -/
theorem lastMeaning?_cons {p : Pair} {pairs : List Pair} (hpairs : ∀ q ∈ pairs, Fits q)
    (flag : Flag) :
    lastMeaning? (p :: pairs) flag =
      (lastMeaning? pairs flag).or (if flag = p.1 then p.1.kind.meaning? p.2 else none) := by
  rw [lastMeaning?, lastMeaning?, List.reverse_cons, List.lookup_append]
  cases hlater : pairs.reverse.lookup flag with
  | none =>
    rw [Option.none_or, Option.bind_none, Option.none_or, List.lookup_cons]
    by_cases hflag : flag = p.1
    · rw [if_pos hflag, beq_iff_eq.mpr hflag, hflag]
      rfl
    · rw [if_neg hflag, beq_eq_false_iff_ne.mpr hflag]
      rfl
  | some value =>
    -- A later value means something, so the one in front does not matter.
    obtain ⟨later, earlier, hsplit, -⟩ := List.lookup_eq_some_iff.mp hlater
    have hmem : (flag, value) ∈ pairs := by
      rw [← List.mem_reverse, hsplit]
      exact List.mem_append_right _ List.mem_cons_self
    obtain ⟨m, hm⟩ := Option.isSome_iff_exists.mp (hpairs _ hmem)
    rw [Option.some_or, Option.bind_some, hm, Option.some_or]

variable {o : Options} {pairs : List Pair} {fault : Fault}

/-- A flag and its value are taken in together. -/
theorem setAll_of_ok {o' : Options} {name value : String} (h : o.set name value = .ok o')
    (rest : List String) : setAll o (("--" ++ name) :: value :: rest) = setAll o' rest := by
  simp only [setAll, flagName?_dashes, h]

/-- What is wrong with them is wrong with all. -/
theorem setAll_of_error {name value : String} (h : o.set name value = .error fault)
    (rest : List String) : setAll o (("--" ++ name) :: value :: rest) = .error fault := by
  simp only [setAll, flagName?_dashes, h]

/-- Offending arguments have their fault, whatever the options are so far. -/
theorem Offends.setAll_eq_error {arguments : List String} (h : Offends arguments fault)
    (o : Options) : setAll o arguments = .error fault := by
  cases h with
  | @notFlag argument rest bad =>
    have hnone : flagName? argument = none := by
      cases hname : flagName? argument with
      | none => rfl
      | some name => exact absurd (eq_dashes_of_flagName? hname) (bad name)
    cases rest <;> simp only [setAll, hnone]
  | noValue name => simp only [setAll, flagName?_dashes]
  | unknownFlag value rest unknown => exact setAll_of_error (set_of_unknown unknown o value) rest
  | badMode rest kind bad => exact setAll_of_error (set_of_badMode kind bad o) rest
  | badNumber rest kind refused => exact setAll_of_error (set_of_badNumber kind refused o) rest

/-- Pairs that are in order are taken in, and then what follows. -/
theorem setAll_spelled (fits : ∀ p ∈ pairs, Fits p) (o : Options) :
    ∃ o', (∀ rest, setAll o (spelled pairs ++ rest) = setAll o' rest) ∧
      ∀ flag, o'.held flag = (lastMeaning? pairs flag).or (o.held flag) := by
  induction pairs generalizing o with
  | nil => exact ⟨o, fun rest => rfl, fun flag => rfl⟩
  | cons p pairs ih =>
    obtain ⟨hp, hpairs⟩ := List.forall_mem_cons.mp fits
    obtain ⟨m, hm⟩ := Option.isSome_iff_exists.mp hp
    obtain ⟨next, hset, hheld, hothers⟩ := set_of_meaning hm o
    obtain ⟨last, hloop, hlast⟩ := ih hpairs next
    refine ⟨last, fun rest => ?_, fun flag => ?_⟩
    · rw [spelled_cons, setAll_of_ok hset]
      exact hloop rest
    · rw [hlast flag, lastMeaning?_cons hpairs]
      by_cases hflag : flag = p.1
      · rw [if_pos hflag, hflag, hheld, hm]
        cases lastMeaning? pairs p.1 <;> rfl
      · rw [if_neg hflag, hothers flag hflag, Option.or_none]

/-- Either a value fits a known flag, or it is what offends. -/
theorem fits_or_offends (flag : Flag) (value : String) (rest : List String) :
    Fits (flag, value) ∨ ∃ fault, Offends (("--" ++ flag.name) :: value :: rest) fault := by
  cases hkind : flag.kind with
  | mode =>
    cases hmode : Mode.meant? value with
    | none => exact .inr ⟨_, .badMode rest hkind hmode⟩
    | some mode => exact .inl (by rw [Fits, hkind, Kind.meaning?, hmode]; rfl)
  | text => exact .inl (by rw [Fits, hkind]; rfl)
  | number bits =>
    obtain ⟨n, hdecimal, hn⟩ | ⟨fault, refused⟩ :=
      Numeral.decimal_or_refused (Nat.pow 2 bits - 1) value.toList
    · have hlt : n < Nat.pow 2 bits := Nat.lt_of_le_sub_one (Nat.two_pow_pos bits) hn
      exact .inl (by rw [Fits, hkind, meaning?_number.mpr ⟨hdecimal, hlt⟩]; rfl)
    · exact .inr ⟨_, .badNumber rest hkind refused⟩

/-- Either arguments are pairs in order, or they offend behind such pairs. -/
theorem spelled_or_offends (arguments : List String) :
    ∃ pairs, (∀ p ∈ pairs, Fits p) ∧ (arguments = spelled pairs ∨
      ∃ rest fault, arguments = spelled pairs ++ rest ∧ Offends rest fault) := by
  match arguments with
  | [] => exact ⟨[], nofun, .inl rfl⟩
  | [argument] =>
    by_cases hflag : ∃ name, argument = "--" ++ name
    · obtain ⟨name, rfl⟩ := hflag
      exact ⟨[], nofun, .inr ⟨_, _, rfl, .noValue name⟩⟩
    · exact ⟨[], nofun, .inr ⟨_, _, rfl, .notFlag [] (not_exists.mp hflag)⟩⟩
  | argument :: value :: rest =>
    by_cases hflag : ∃ name, argument = "--" ++ name
    · obtain ⟨name, rfl⟩ := hflag
      by_cases hknown : ∃ flag : Flag, flag.name = name
      · obtain ⟨flag, rfl⟩ := hknown
        -- Only a pair that is in order is passed over, whatever follows it.
        obtain fits | ⟨fault, bad⟩ := fits_or_offends flag value rest
        · obtain ⟨pairs, hpairs, hrest⟩ := spelled_or_offends rest
          refine ⟨(flag, value) :: pairs, List.forall_mem_cons.mpr ⟨fits, hpairs⟩, ?_⟩
          obtain rfl | ⟨tail, fault, rfl, bad⟩ := hrest
          · exact .inl rfl
          · exact .inr ⟨tail, fault, rfl, bad⟩
        · exact ⟨[], nofun, .inr ⟨_, fault, rfl, bad⟩⟩
      · exact ⟨[], nofun, .inr ⟨_, _, rfl, .unknownFlag value rest (not_exists.mp hknown)⟩⟩
    · exact ⟨[], nofun, .inr ⟨_, _, rfl, .notFlag _ (not_exists.mp hflag)⟩⟩

theorem Flag.name_injective {a b : Flag} (h : a.name = b.name) : a = b := by
  cases a <;> cases b <;> first | rfl | exact absurd h (by decide)

/-- Arguments are spelled out in one way only. -/
theorem spelled_injective {pairs others : List Pair} (h : spelled pairs = spelled others) :
    pairs = others := by
  induction pairs generalizing others with
  | nil =>
    cases others with
    | nil => rfl
    | cons q others => cases h
  | cons p pairs ih =>
    cases others with
    | nil => cases h
    | cons q others =>
      obtain ⟨hflag, htail⟩ := List.cons.inj h
      obtain ⟨hvalue, hrest⟩ := List.cons.inj htail
      have hname := congrArg flagName? hflag
      rw [flagName?_dashes, flagName?_dashes, Option.some.injEq] at hname
      rw [ih hrest, Prod.ext (Flag.name_injective hname) hvalue]

/-- What options hold that come of some pairs. -/
def Holds (o : Options) (pairs : List Pair) : Prop :=
  ∀ flag, o.held flag = (lastMeaning? pairs flag).or (({} : Options).held flag)

/-- Arguments that are in order make options. -/
theorem ofArguments_spelled {arguments : List String} (hall : arguments.drop 1 = spelled pairs)
    (fits : ∀ p ∈ pairs, Fits p) : ∃ o, ofArguments arguments = .ok o ∧ o.Holds pairs := by
  obtain ⟨o, hloop, hheld⟩ := setAll_spelled fits {}
  refine ⟨o, ?_, hheld⟩
  rw [ofArguments, hall, ← List.append_nil (spelled pairs), hloop]
  rfl

/-- Arguments that are not in order have the fault of what offends. -/
theorem Offends.ofArguments_eq_error {arguments rest : List String} (bad : Offends rest fault)
    (hrest : arguments.drop 1 = spelled pairs ++ rest) (fits : ∀ p ∈ pairs, Fits p) :
    ofArguments arguments = .error fault := by
  obtain ⟨o, hloop, -⟩ := setAll_spelled fits {}
  rw [ofArguments, hrest, hloop, bad.setAll_eq_error]

theorem ofArguments_eq_ok_iff {arguments : List String} {o : Options} :
    ofArguments arguments = .ok o ↔
      ∃ pairs, arguments.drop 1 = spelled pairs ∧ (∀ p ∈ pairs, Fits p) ∧ o.Holds pairs := by
  constructor
  · intro h
    obtain ⟨pairs, fits, hall | ⟨rest, fault, hrest, bad⟩⟩ := spelled_or_offends (arguments.drop 1)
    · obtain ⟨made, hmade, holds⟩ := ofArguments_spelled hall fits
      obtain rfl := Except.ok.inj (hmade.symm.trans h)
      exact ⟨pairs, hall, fits, holds⟩
    · cases h.symm.trans (bad.ofArguments_eq_error hrest fits)
  · rintro ⟨pairs, hall, fits, holds⟩
    obtain ⟨made, hmade, hheld⟩ := ofArguments_spelled hall fits
    rw [hmade, ext_held fun flag => (hheld flag).trans (holds flag).symm]

theorem holds_of_ofArguments {arguments : List String} {o : Options}
    (hall : arguments.drop 1 = spelled pairs) (h : ofArguments arguments = .ok o) :
    o.Holds pairs := by
  obtain ⟨others, hothers, -, holds⟩ := ofArguments_eq_ok_iff.mp h
  obtain rfl := spelled_injective (hall.symm.trans hothers)
  exact holds

theorem ofArguments_eq_error_iff {arguments : List String} {fault : Fault} :
    ofArguments arguments = .error fault ↔
      ∃ pairs rest, arguments.drop 1 = spelled pairs ++ rest ∧ (∀ p ∈ pairs, Fits p) ∧
        Offends rest fault := by
  constructor
  · intro h
    obtain ⟨pairs, fits, hall | ⟨rest, other, hrest, bad⟩⟩ := spelled_or_offends (arguments.drop 1)
    · obtain ⟨made, hmade, -⟩ := ofArguments_spelled hall fits
      cases h.symm.trans hmade
    · obtain rfl := Except.error.inj (h.symm.trans (bad.ofArguments_eq_error hrest fits))
      exact ⟨pairs, rest, hrest, fits, bad⟩
  · rintro ⟨pairs, rest, hrest, fits, bad⟩
    exact bad.ofArguments_eq_error hrest fits

end Loop

end Options

end MazeRobot

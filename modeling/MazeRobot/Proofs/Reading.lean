import MazeRobot.Json.Decode

/-!
# Reading what was written

The text of a value, in any layout that puts nothing but blanks between the
tokens, is read back as the tree of this value, and nothing behind it is
touched. Numerals have to denote what a word can hold; texts may hold any
characters.
-/

namespace MazeRobot

namespace Scan

section Numerals

theorem isDigit_digitChar {d : Nat} (h : d < 10) : isDigit d.digitChar = true := by
  have hall : ∀ d < 10, isDigit (Nat.digitChar d) = true := by decide
  exact hall d h

theorem toNat_digitChar {d : Nat} (h : d < 10) : d.digitChar.toNat - 48 = d := by
  have hall : ∀ d < 10, (Nat.digitChar d).toNat - 48 = d := by decide
  exact hall d h

/-- The numeral of a number is that of its tens and one more digit. -/
theorem natDigits_of_lt {n : Nat} (h : n < 10) : Json.natDigits n = [n.digitChar] :=
  Nat.toDigits_of_lt_base h

theorem natDigits_of_le {n : Nat} (h : 10 ≤ n) :
    Json.natDigits n = Json.natDigits (n / 10) ++ [(n % 10).digitChar] := by
  rw [Json.natDigits, Nat.toDigits_eq_if (by decide), if_neg (by omega)]
  rfl

theorem natDigits_ne_nil (n : Nat) : Json.natDigits n ≠ [] :=
  Nat.toDigits_ne_nil

theorem isDigit_of_mem_natDigits {n : Nat} {c : Char} (hc : c ∈ Json.natDigits n) :
    isDigit c = true := by
  induction n using Nat.strongRecOn with
  | _ n ih =>
    by_cases h : n < 10
    · rw [natDigits_of_lt h] at hc
      rw [List.mem_singleton.mp hc]
      exact isDigit_digitChar h
    · rw [natDigits_of_le (by omega)] at hc
      rcases List.mem_append.mp hc with htens | hlast
      · exact ih (n / 10) (by omega) htens
      · rw [List.mem_singleton.mp hlast]
        exact isDigit_digitChar (by omega)

/-- Only the numeral of zero begins with a zero. -/
theorem head?_natDigits_ne {n : Nat} (h : n ≠ 0) : (Json.natDigits n).head? ≠ some '0' := by
  induction n using Nat.strongRecOn with
  | _ n ih =>
    by_cases hlt : n < 10
    · have hall : ∀ d < 10, d ≠ 0 → Nat.digitChar d ≠ '0' := by decide
      rw [natDigits_of_lt hlt]
      exact fun heq => hall n hlt h (Option.some.inj heq)
    · have htens := ih (n / 10) (by omega) (by omega)
      rw [natDigits_of_le (by omega)]
      cases hdigits : Json.natDigits (n / 10) with
      | nil => exact absurd hdigits (natDigits_ne_nil _)
      | cons c later =>
        rw [hdigits] at htens
        exact htens

theorem digitsValue_nil (acc : Nat) : digitsValue acc [] = acc := rfl

theorem digitsValue_cons (acc : Nat) (c : Char) (rest : List Char) :
    digitsValue acc (c :: rest) = digitsValue (acc * 10 + (c.toNat - 48)) rest :=
  List.foldl_cons ..

theorem digitsValue_append (acc : Nat) (ds later : List Char) :
    digitsValue acc (ds ++ later) = digitsValue (digitsValue acc ds) later :=
  List.foldl_append

theorem digitsValue_digitChar (acc : Nat) {d : Nat} (h : d < 10) :
    digitsValue acc [d.digitChar] = acc * 10 + d := by
  rw [digitsValue_cons, toNat_digitChar h]
  rfl

theorem digitsValue_natDigits (n : Nat) : digitsValue 0 (Json.natDigits n) = n := by
  induction n using Nat.strongRecOn with
  | _ n ih =>
    by_cases h : n < 10
    · rw [natDigits_of_lt h, digitsValue_digitChar 0 h]
      omega
    · rw [natDigits_of_le (by omega), digitsValue_append, ih (n / 10) (by omega),
        digitsValue_digitChar _ (by omega)]
      omega

theorem le_digitsValue (acc : Nat) (ds : List Char) : acc ≤ digitsValue acc ds := by
  induction ds generalizing acc with
  | nil => exact Nat.le_refl _
  | cons c rest ih =>
    have hlater := ih (acc * 10 + (c.toNat - 48))
    rw [digitsValue_cons]
    omega

/-- Digits of what a word can hold are all taken into a word. -/
theorem wordOf_of_le {acc : Nat} {ds : List Char} (h : digitsValue acc ds ≤ maxWord) :
    wordOf acc ds = (digitsValue acc ds, 0) := by
  induction ds generalizing acc with
  | nil => rfl
  | cons c rest ih =>
    rw [digitsValue_cons] at h ⊢
    have hnext : acc * 10 + (c.toNat - 48) ≤ maxWord := Nat.le_trans (le_digitsValue _ rest) h
    rw [wordOf]
    simp only [if_pos hnext]
    exact ih h

/-- A text with which no numeral goes on. -/
def Stops (rest : List Char) : Prop :=
  ∀ c, rest.head? = some c → isDigit c = false ∧ c ≠ '.' ∧ c ≠ 'e' ∧ c ≠ 'E'

theorem digits_append {ds rest : List Char} (hds : ∀ c ∈ ds, isDigit c = true)
    (hrest : Stops rest) : digits (ds ++ rest) = (ds, rest) := by
  induction ds with
  | nil =>
    cases rest with
    | nil => rfl
    | cons c rest =>
      have hc : isDigit c = false := (hrest c rfl).1
      rw [List.nil_append, digits, hc]
      rfl
  | cons c ds ih =>
    obtain ⟨hc, hds⟩ := List.forall_mem_cons.mp hds
    rw [List.cons_append, digits, if_pos hc, ih hds]

theorem readFraction_of_stops {rest : List Char} (h : Stops rest) :
    readFraction rest = .ok (none, rest) := by
  unfold readFraction
  split
  · exact absurd rfl (h '.' rfl).2.1
  · rfl

theorem readExponent_of_stops {rest : List Char} (h : Stops rest) :
    readExponent rest = .ok (none, rest) := by
  cases rest with
  | nil => rfl
  | cons c rest =>
    obtain ⟨-, -, he, hE⟩ := h c rfl
    unfold readExponent
    exact if_neg fun h => h.elim he hE

/-- The numeral of a number that a word can hold is read back. -/
theorem readNumeral_natDigits (negative : Bool) {n : Nat} (hn : n ≤ maxWord)
    (hzero : negative = true → n ≠ 0) {rest : List Char} (hrest : Stops rest) :
    readNumeral negative (Json.natDigits n ++ rest) =
      .ok (.whole (if negative then -(n : Int) else n), rest) := by
  have hdigits := digits_append (fun c => isDigit_of_mem_natDigits (n := n)) hrest
  have hbeyond : isBeyond (Json.natDigits n) [] 0 = false := by
    have hle : digitsValue 0 (Json.natDigits n) ≤ maxWord := by
      rw [digitsValue_natDigits]
      exact hn
    have hword := wordOf_of_le hle
    simp only [isBeyond, hword, wordOf, isHuge]
    rw [if_pos (.inr (by decide))]
  have hminus : (negative && n == 0) = false := by
    cases negative with
    | false => rfl
    | true => exact beq_false_of_ne (hzero rfl)
  unfold readNumeral
  rw [hdigits]
  split
  · next heq => exact absurd (congrArg Prod.fst heq) (natDigits_ne_nil n)
  · next d later _ heq =>
    have hhead : Json.natDigits n = '0' :: d :: later := congrArg Prod.fst heq
    have hnz : n ≠ 0 := by
      rintro rfl
      cases hhead
    exact absurd (by rw [hhead]; rfl) (head?_natDigits_ne hnz)
  · next ds later _ heq =>
    obtain ⟨rfl, rfl⟩ := Prod.mk.inj heq
    simp only [readFraction_of_stops hrest, readExponent_of_stops hrest, Option.getD_none,
      digitsValue_natDigits, digitsValue_nil, hbeyond, hminus, Option.isNone_none]
    rfl

end Numerals

section Literals

/-- How a character of a literal is read. -/
def unitOf (c : Char) : Unit16 :=
  if c.toNat < 32 ∧ c ≠ '\x08' ∧ c ≠ '\x0c' ∧ c ≠ '\n' ∧ c ≠ '\r' ∧ c ≠ '\t' then .code c.toNat
  else .char c

theorem hexValue?_hexDigit {d : Nat} (h : d < 16) : hexValue? (Json.hexDigit d) = some d := by
  have hall : ∀ d < 16, hexValue? (Json.hexDigit d) = some d := by decide
  exact hall d h

/-- An escaped character is read as one element. -/
theorem literal_escape (c : Char) (rest : List Char) :
    literal (Json.escape c ++ rest) = (unitOf c :: (literal rest).1, (literal rest).2) := by
  unfold Json.escape
  split
  · next h => subst h; rfl
  split
  · next h => subst h; rfl
  split
  · next h => subst h; rfl
  split
  · next h => subst h; rfl
  split
  · next h => subst h; rfl
  split
  · next h => subst h; rfl
  split
  · next h => subst h; rfl
  next hquote hslash h8 h12 h10 h13 h9 =>
  split
  · next hcontrol =>
    have hhigh := hexValue?_hexDigit (d := c.toNat / 16) (by omega)
    have hlow := hexValue?_hexDigit (d := c.toNat % 16) (by omega)
    have hzero : hexValue? '0' = some 0 := by decide
    have hcode : ((0 * 16 + 0) * 16 + c.toNat / 16) * 16 + c.toNat % 16 = c.toNat := by omega
    have hunit : unitOf c = .code c.toNat := if_pos ⟨hcontrol, h8, h12, h10, h13, h9⟩
    simp only [List.cons_append, List.nil_append, literal, hzero, hhigh, hlow, hcode, hunit]
  · next hplain =>
    have hunit : unitOf c = .char c := if_neg fun h => hplain h.1
    rw [List.cons_append, List.nil_append, literal.eq_def]
    split <;> simp_all

theorem literal_escapeAll (cs rest : List Char) :
    literal (Json.escapeAll cs ++ '"' :: rest) = (cs.map unitOf, .ok rest) := by
  induction cs with
  | nil => rfl
  | cons c cs ih =>
    rw [Json.escapeAll, List.append_assoc, literal_escape, ih]
    rfl

/-- The elements of a text that was written denote its characters. -/
theorem assemble_unitOf (atEnd : Fault) (cs : List Char) :
    assemble atEnd (cs.map unitOf) = .ok cs := by
  induction cs with
  | nil => rfl
  | cons c cs ih =>
    rw [List.map_cons, unitOf]
    split
    · next hcontrol =>
      have hlow : isLow c.toNat = false := by
        rw [isLow, Bool.and_eq_false_iff]
        exact .inl (decide_eq_false (by omega))
      have hhigh : isHigh c.toNat = false := by
        rw [isHigh, Bool.and_eq_false_iff]
        exact .inl (decide_eq_false (by omega))
      unfold assemble
      rw [hlow, hhigh, ih, Char.ofNat_toNat]
      rfl
    · unfold assemble
      rw [ih]

/-- A quoted text is read back behind its first quote. -/
theorem readLiteral_quoted (s : String) (rest : List Char) :
    readLiteral (Json.escapeAll s.toList ++ '"' :: rest) = .ok (.ok s, rest) := by
  rw [readLiteral, literal_escapeAll]
  simp only [assemble_unitOf, String.ofList_toList]

end Literals

end Scan

namespace Json

mutual

/-- The tree of a value. -/
def scan : Json → Scan
  | null => .null
  | bool b => .bool b
  | number n => .number (.whole n)
  | string s => .text (.ok s)
  | array items => .array (scanItems items) none
  | object members => .object (scanMembers members) none

/-- The trees of items. -/
def scanItems : List Json → List Scan
  | [] => []
  | item :: rest => scan item :: scanItems rest

/-- The trees of members, with their names. -/
def scanMembers : List (String × Json) → List (Except Fault String × Scan)
  | [] => []
  | (name, item) :: rest => (.ok name, scan item) :: scanMembers rest

end

mutual

/-- Every number in a value is one that a word can hold, a sign aside. -/
def Small : Json → Prop
  | number n => n.natAbs ≤ Scan.maxWord
  | array items => SmallItems items
  | object members => SmallMembers members
  | null | bool _ | string _ => True

/-- Every number in items is one that a word can hold. -/
def SmallItems : List Json → Prop
  | [] => True
  | item :: rest => Small item ∧ SmallItems rest

/-- Every number in members is one that a word can hold. -/
def SmallMembers : List (String × Json) → Prop
  | [] => True
  | (_, item) :: rest => Small item ∧ SmallMembers rest

end

/-- A layout that puts nothing but blanks between the tokens. -/
structure Layout.Blank (layout : Layout) : Prop where
  /-- Before an item. -/
  item : ∀ level, ∀ c ∈ layout.item level, Scan.isBlank c = true
  /-- Before a closing bracket. -/
  close : ∀ level, ∀ c ∈ layout.close level, Scan.isBlank c = true
  /-- Behind a colon. -/
  colon : ∀ c ∈ layout.colon, Scan.isBlank c = true

theorem Layout.blank_compact : Layout.Blank .compact :=
  ⟨fun _ _ hc => absurd hc List.not_mem_nil, fun _ _ hc => absurd hc List.not_mem_nil,
    fun _ hc => absurd hc List.not_mem_nil⟩

theorem Layout.isBlank_newline (level : Nat) : ∀ c ∈ newline level, Scan.isBlank c = true := by
  refine List.forall_mem_cons.mpr ⟨rfl, fun c hc => ?_⟩
  rw [List.eq_of_mem_replicate hc]
  rfl

theorem Layout.blank_pretty : Layout.Blank .pretty :=
  ⟨isBlank_newline, fun level => isBlank_newline (level - 1),
    List.forall_mem_cons.mpr ⟨rfl, fun _ hc => absurd hc List.not_mem_nil⟩⟩

end Json

namespace Scan

open Json (Layout write writeItems writeMembers scan scanItems scanMembers)

section Values

theorem skipBlanks_append {blank : List Char} (hblank : ∀ c ∈ blank, isBlank c = true)
    (cs : List Char) : skipBlanks (blank ++ cs) = skipBlanks cs := by
  induction blank with
  | nil => rfl
  | cons c rest ih =>
    obtain ⟨hc, hrest⟩ := List.forall_mem_cons.mp hblank
    rw [List.cons_append, skipBlanks, if_pos hc, ih hrest]

theorem skipBlanks_cons {c : Char} (hc : isBlank c = false) (cs : List Char) :
    skipBlanks (c :: cs) = c :: cs := by
  rw [skipBlanks, hc]
  rfl

/-- Blanks before a value do not matter. -/
theorem value_blank {blank : List Char} (hblank : ∀ c ∈ blank, isBlank c = true) (fuel : Nat)
    (cs : List Char) : value fuel (blank ++ cs) = value fuel cs := by
  cases fuel with
  | zero => rfl
  | succ fuel => rw [value, value, skipBlanks_append hblank]

/-- A digit is no other character. -/
theorem ne_of_isDigit {c d : Char} (hc : isDigit c = true) (hd : isDigit d = false) : c ≠ d := by
  rintro rfl
  rw [hd] at hc
  cases hc

theorem isBlank_of_isDigit {c : Char} (h : isDigit c = true) : isBlank c = false := by
  simp only [isBlank, Bool.or_eq_false_iff, beq_eq_false_iff_ne]
  exact ⟨⟨⟨ne_of_isDigit h rfl, ne_of_isDigit h rfl⟩, ne_of_isDigit h rfl⟩, ne_of_isDigit h rfl⟩

/-- A numeral is read where a digit stands. -/
theorem value_digit {c : Char} (hc : isDigit c = true) (fuel : Nat) (cs : List Char) :
    value (fuel + 1) (c :: cs) =
      match readNumeral false (c :: cs) with
      | .ok (n, rest) => (.number n, rest)
      | .error b => (.broken b, []) := by
  rw [value, skipBlanks_cons (isBlank_of_isDigit hc)]
  split
  · next heq => cases heq
  · next heq => exact absurd (List.cons.inj heq).1 (ne_of_isDigit hc rfl)
  · next heq => exact absurd (List.cons.inj heq).1 (ne_of_isDigit hc rfl)
  · next heq => exact absurd (List.cons.inj heq).1 (ne_of_isDigit hc rfl)
  · next heq => exact absurd (List.cons.inj heq).1 (ne_of_isDigit hc rfl)
  · next heq => exact absurd (List.cons.inj heq).1 (ne_of_isDigit hc rfl)
  · next heq => exact absurd (List.cons.inj heq).1 (ne_of_isDigit hc rfl)
  · next heq => exact absurd (List.cons.inj heq).1 (ne_of_isDigit hc rfl)
  · next heq =>
    obtain ⟨rfl, rfl⟩ := List.cons.inj heq
    exact if_pos hc

theorem value_number {n : Int} (hn : n.natAbs ≤ maxWord) (fuel : Nat) {rest : List Char}
    (hrest : Stops rest) :
    value (fuel + 1) (Json.intDigits n ++ rest) = (.number (.whole n), rest) := by
  cases n with
  | ofNat n =>
    have hread := readNumeral_natDigits false (n := n) hn Bool.noConfusion hrest
    rw [Json.intDigits]
    cases hdigits : Json.natDigits n with
    | nil => exact absurd hdigits (natDigits_ne_nil n)
    | cons c later =>
      have hc : isDigit c = true := isDigit_of_mem_natDigits (n := n) (by rw [hdigits]; exact .head _)
      rw [hdigits] at hread
      rw [List.cons_append, value_digit hc, ← List.cons_append, hread]
      rfl
  | negSucc n =>
    have hread := readNumeral_natDigits true (n := n + 1) hn
      (fun _ => Nat.succ_ne_zero n) hrest
    rw [Json.intDigits, List.cons_append, value, skipBlanks_cons rfl]
    simp only [hread]
    rfl

theorem value_string (s : String) (fuel : Nat) (rest : List Char) :
    value (fuel + 1) (Json.quote s ++ rest) = (.text (.ok s), rest) := by
  rw [Json.quote, List.cons_append, List.append_assoc, value, skipBlanks_cons rfl]
  simp only [List.cons_append, List.nil_append, readLiteral_quoted]

/-- What is read back with so much fuel. -/
structure ReadsBack (layout : Layout) (fuel : Nat) : Prop where
  /-- A value. -/
  value : ∀ (j : Json) (level : Nat) (rest : List Char), j.Small → Stops rest →
    2 * (write layout level j).length ≤ fuel →
    value fuel (write layout level j ++ rest) = (scan j, rest)
  /-- The items of an array and its closing bracket, behind blanks. -/
  item : ∀ (first : Json) (later : List Json) (level : Nat) (blank rest : List Char),
    first.Small → Json.SmallItems later → (∀ c ∈ blank, isBlank c = true) →
    1 + 2 * ((write layout (level + 1) first).length + (writeItems layout level later).length) ≤
      fuel →
    item fuel (blank ++ (write layout (level + 1) first ++
      (writeItems layout level later ++ (layout.close level ++ ']' :: rest)))) =
      (scan first :: scanItems later, none, rest)
  /-- The members of an object and its closing brace, behind blanks. -/
  member : ∀ (name : String) (first : Json) (later : List (String × Json)) (level : Nat)
    (blank rest : List Char), first.Small → Json.SmallMembers later →
    (∀ c ∈ blank, isBlank c = true) →
    1 + 2 * ((write layout (level + 1) first).length +
      (writeMembers layout level later).length) ≤ fuel →
    member fuel (blank ++ (Json.quote name ++ ':' :: (layout.colon ++
      (write layout (level + 1) first ++
        (writeMembers layout level later ++ (layout.close level ++ '\x7d' :: rest)))))) =
      ((.ok name, scan first) :: scanMembers later, none, rest)

theorem isOpen_scan (j : Json) : (scan j).isOpen = false := by
  cases j <;> rfl

/-- The text of a value begins with a token that closes nothing. -/
theorem exists_write_eq_cons (layout : Layout) (level : Nat) (j : Json) :
    ∃ c rest, write layout level j = c :: rest ∧ isBlank c = false ∧ c ≠ ']' ∧ c ≠ '\x7d' := by
  cases j with
  | null => exact ⟨'n', _, rfl, rfl, by decide, by decide⟩
  | bool b =>
    cases b
    · exact ⟨'f', _, rfl, rfl, by decide, by decide⟩
    · exact ⟨'t', _, rfl, rfl, by decide, by decide⟩
  | string s => exact ⟨'"', _, rfl, rfl, by decide, by decide⟩
  | array items => cases items <;> exact ⟨'[', _, rfl, rfl, by decide, by decide⟩
  | object members => cases members <;> exact ⟨'\x7b', _, rfl, rfl, by decide, by decide⟩
  | number n =>
    cases n with
    | negSucc n => exact ⟨'-', _, rfl, rfl, by decide, by decide⟩
    | ofNat n =>
      obtain ⟨c, rest, hdigits⟩ := List.exists_cons_of_ne_nil (natDigits_ne_nil n)
      have hc : isDigit c = true := isDigit_of_mem_natDigits (n := n) (by rw [hdigits]; exact .head _)
      exact ⟨c, rest, hdigits, isBlank_of_isDigit hc, ne_of_isDigit hc rfl, ne_of_isDigit hc rfl⟩

theorem length_write_pos (layout : Layout) (level : Nat) (j : Json) :
    0 < (write layout level j).length := by
  obtain ⟨c, later, hwrite, -⟩ := exists_write_eq_cons layout level j
  rw [hwrite]
  exact Nat.succ_pos _

/-- No numeral goes on with a blank or with what follows a value. -/
theorem stops_cons {c : Char} (hc : isDigit c = false ∧ c ≠ '.' ∧ c ≠ 'e' ∧ c ≠ 'E')
    (rest : List Char) : Stops (c :: rest) := by
  intro d hd
  obtain rfl := Option.some.inj hd
  exact hc

theorem stops_blank {blank rest : List Char} (hblank : ∀ c ∈ blank, isBlank c = true)
    (hrest : Stops rest) : Stops (blank ++ rest) := by
  cases blank with
  | nil => exact hrest
  | cons c later =>
    have hc := hblank c (.head _)
    simp only [isBlank, Bool.or_eq_true, beq_iff_eq] at hc
    refine stops_cons ?_ _
    rcases hc with ((rfl | rfl) | rfl) | rfl <;> decide

variable {layout : Layout} {fuel : Nat}

theorem ReadsBack.item_succ (h : ReadsBack layout fuel) (hlayout : layout.Blank) (first : Json)
    (later : List Json) (level : Nat) (blank rest : List Char) (hfirst : first.Small)
    (hlater : Json.SmallItems later) (hblank : ∀ c ∈ blank, isBlank c = true)
    (hfuel : 1 + 2 * ((write layout (level + 1) first).length +
      (writeItems layout level later).length) ≤ fuel + 1) :
    Scan.item (fuel + 1) (blank ++ (write layout (level + 1) first ++
      (writeItems layout level later ++ (layout.close level ++ ']' :: rest)))) =
      (scan first :: scanItems later, none, rest) := by
  have hclose := hlayout.close level
  have hstops : Stops (writeItems layout level later ++ (layout.close level ++ ']' :: rest)) := by
    cases later with
    | nil =>
      rw [writeItems, List.nil_append]
      exact stops_blank hclose (stops_cons (by decide) _)
    | cons => exact stops_cons (by decide) _
  rw [Scan.item, value_blank hblank, h.value first (level + 1) _ hfirst hstops (by omega)]
  simp only [isOpen_scan, Bool.false_eq_true, if_false]
  cases later with
  | nil =>
    rw [writeItems, List.nil_append, skipBlanks_append hclose, skipBlanks_cons rfl]
    rfl
  | cons second later =>
    rw [writeItems, List.length_cons, List.length_append, List.length_append] at hfuel
    have hitem := h.item second later level (layout.item level) rest hlater.1 hlater.2
      (hlayout.item level) (by omega)
    rw [writeItems, List.cons_append, skipBlanks_cons rfl]
    simp only [List.append_assoc, hitem]
    rfl

theorem ReadsBack.member_succ (h : ReadsBack layout fuel) (hlayout : layout.Blank) (name : String)
    (first : Json) (later : List (String × Json)) (level : Nat) (blank rest : List Char)
    (hfirst : first.Small) (hlater : Json.SmallMembers later)
    (hblank : ∀ c ∈ blank, isBlank c = true)
    (hfuel : 1 + 2 * ((write layout (level + 1) first).length +
      (writeMembers layout level later).length) ≤ fuel + 1) :
    Scan.member (fuel + 1) (blank ++ (Json.quote name ++ ':' :: (layout.colon ++
      (write layout (level + 1) first ++
        (writeMembers layout level later ++ (layout.close level ++ '\x7d' :: rest)))))) =
      ((.ok name, scan first) :: scanMembers later, none, rest) := by
  have hclose := hlayout.close level
  have hstops : Stops (writeMembers layout level later ++
      (layout.close level ++ '\x7d' :: rest)) := by
    cases later with
    | nil =>
      rw [writeMembers, List.nil_append]
      exact stops_blank hclose (stops_cons (by decide) _)
    | cons => exact stops_cons (by decide) _
  rw [Scan.member, skipBlanks_append hblank, Json.quote, List.cons_append, skipBlanks_cons rfl]
  simp only [List.append_assoc, List.cons_append, List.nil_append, readLiteral_quoted,
    skipBlanks_cons (c := ':') rfl, value_blank hlayout.colon,
    h.value first (level + 1) _ hfirst hstops (by omega), isOpen_scan, Bool.false_eq_true, if_false]
  cases later with
  | nil =>
    rw [writeMembers, List.nil_append, skipBlanks_append hclose, skipBlanks_cons rfl]
    rfl
  | cons second later =>
    obtain ⟨next, second⟩ := second
    simp only [writeMembers, List.length_cons, List.length_append] at hfuel
    have hmember := h.member next second later level (layout.item level) rest hlater.1 hlater.2
      (hlayout.item level) (by omega)
    rw [writeMembers, List.cons_append, skipBlanks_cons rfl]
    simp only [List.append_assoc, List.cons_append, hmember]
    rfl

/-- Behind an opening bracket and blanks a value is the first item. -/
theorem firstItem_write {blank : List Char} (hblank : ∀ c ∈ blank, isBlank c = true)
    (level : Nat) (j : Json) (rest : List Char) :
    firstItem (fuel + 1) (blank ++ (write layout level j ++ rest)) =
      Scan.item fuel (write layout level j ++ rest) := by
  obtain ⟨c, later, hwrite, hc, hne, -⟩ := exists_write_eq_cons layout level j
  rw [firstItem, skipBlanks_append hblank, hwrite, List.cons_append, skipBlanks_cons hc]
  split
  · next heq => cases heq
  · next heq => exact absurd (List.cons.inj heq).1 hne
  · rfl

/-- An array takes two steps to its first item. -/
theorem ReadsBack.value_array (h : ReadsBack layout fuel) (hlayout : layout.Blank) (first : Json)
    (later : List Json) (level : Nat) (rest : List Char) (hfirst : first.Small)
    (hlater : Json.SmallItems later)
    (hfuel : 1 + 2 * ((write layout (level + 1) first).length +
      (writeItems layout level later).length) ≤ fuel) :
    Scan.value (fuel + 2) (write layout level (.array (first :: later)) ++ rest) =
      (scan (.array (first :: later)), rest) := by
  have hitem := h.item first later level [] rest hfirst hlater
    (fun _ hc => absurd hc List.not_mem_nil) hfuel
  rw [List.nil_append] at hitem
  rw [write, List.cons_append, Scan.value, skipBlanks_cons rfl]
  simp only [List.append_assoc, List.cons_append, List.nil_append,
    firstItem_write (hlayout.item level), hitem]
  rfl

/-- An object takes two steps to its first member. -/
theorem ReadsBack.value_object (h : ReadsBack layout fuel) (hlayout : layout.Blank) (name : String)
    (first : Json) (later : List (String × Json)) (level : Nat) (rest : List Char)
    (hfirst : first.Small) (hlater : Json.SmallMembers later)
    (hfuel : 1 + 2 * ((write layout (level + 1) first).length +
      (writeMembers layout level later).length) ≤ fuel) :
    Scan.value (fuel + 2) (write layout level (.object ((name, first) :: later)) ++ rest) =
      (scan (.object ((name, first) :: later)), rest) := by
  have hmember := h.member name first later level [] rest hfirst hlater
    (fun _ hc => absurd hc List.not_mem_nil) hfuel
  rw [List.nil_append] at hmember
  have hfirst (tail : List Char) :
      firstMember (fuel + 1) (layout.item level ++ (Json.quote name ++ tail)) =
        Scan.member fuel (Json.quote name ++ tail) := by
    rw [firstMember, skipBlanks_append (hlayout.item level)]
    rfl
  rw [write, List.cons_append, Scan.value, skipBlanks_cons rfl]
  simp only [List.append_assoc, List.cons_append, List.nil_append, hfirst, hmember]
  rfl

/-- Enough fuel for the text of a value is enough to read it back. The induction is
on the fuel; a value needs it for two steps before its first item. -/
theorem readsBack (hlayout : layout.Blank) (fuel : Nat) : ReadsBack layout fuel := by
  induction fuel using Nat.strongRecOn with
  | _ fuel ih =>
    cases fuel with
    | zero =>
      refine ⟨fun j level rest _ _ hfuel => ?_, fun first later level blank rest _ _ _ hfuel => ?_,
        fun name first later level blank rest _ _ _ hfuel => ?_⟩
      · have hpos := length_write_pos layout level j
        omega
      · omega
      · omega
    | succ fuel =>
      have hlast := ih fuel (Nat.lt_succ_self fuel)
      refine ⟨fun j level rest hsmall hrest hfuel => ?_, hlast.item_succ hlayout,
        hlast.member_succ hlayout⟩
      cases j with
      | null => rfl
      | bool b => cases b <;> rfl
      | number n => exact value_number hsmall fuel hrest
      | string s => exact value_string s fuel rest
      | array items =>
        cases items with
        | nil =>
          obtain ⟨f, rfl⟩ : ∃ f, fuel = f + 1 := ⟨fuel - 1, by
            simp only [write, List.length_cons] at hfuel
            omega⟩
          rfl
        | cons first later =>
          obtain ⟨f, rfl⟩ : ∃ f, fuel = f + 1 := ⟨fuel - 1, by
            simp only [write, List.length_cons] at hfuel
            omega⟩
          simp only [write, List.length_cons, List.length_append, List.length_nil] at hfuel
          exact (ih f (by omega)).value_array hlayout first later level rest hsmall.1 hsmall.2
            (by omega)
      | object members =>
        cases members with
        | nil =>
          obtain ⟨f, rfl⟩ : ∃ f, fuel = f + 1 := ⟨fuel - 1, by
            simp only [write, List.length_cons] at hfuel
            omega⟩
          rfl
        | cons member later =>
          obtain ⟨name, first⟩ := member
          obtain ⟨f, rfl⟩ : ∃ f, fuel = f + 1 := ⟨fuel - 1, by
            simp only [write, List.length_cons] at hfuel
            omega⟩
          simp only [write, List.length_cons, List.length_append, List.length_nil] at hfuel
          exact (ih f (by omega)).value_object hlayout name first later level rest hsmall.1
            hsmall.2 (by omega)

/-- A text of a value and nothing else is read as its tree. -/
theorem ofText_write (hlayout : layout.Blank) (level : Nat) {j : Json} (hsmall : j.Small) :
    ofText (String.ofList (write layout level j)) = (scan j, []) := by
  have hread := (readsBack hlayout (2 * (write layout level j).length + 3)).value j level []
    hsmall (fun _ hc => by cases hc) (by omega)
  rw [List.append_nil] at hread
  rw [ofText, String.toList_ofList]
  exact hread

end Values

end Scan

/-- A value that was written is decoded as its tree is. -/
theorem Decoder.text_write {α : Type} (decode : Decoder α) {layout : Json.Layout}
    (hlayout : layout.Blank) (level : Nat) {j : Json} (hsmall : j.Small) :
    Decoder.text decode (String.ofList (Json.write layout level j)) = decode j.scan := by
  rw [Decoder.text, Scan.ofText_write hlayout level hsmall]
  cases hdecode : decode j.scan with
  | error fault => simp only [hdecode]
  | ok a => simp only [hdecode, Scan.skipBlanks]

end MazeRobot

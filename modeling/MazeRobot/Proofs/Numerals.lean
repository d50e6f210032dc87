import MazeRobot.Numeral

/-!
# Decimal numerals

What a decimal numeral is can be said without reading it digit by digit: it has
digits only, one at least, and the number is theirs. The reader gives that number if
it is within the limit. If the reader gives a fault, there is a first place that is
wrong: all before it are digits of a number within the limit, and there stands
something that is no digit, or a digit that leads beyond the limit.
-/

namespace MazeRobot.Numeral

/-- What stands behind a plus, if there is one. -/
def unsigned : List Char → List Char
  | '+' :: rest => rest
  | cs => cs

/-- The number of decimal digits, possibly behind a plus. -/
def decimal? (cs : List Char) : Option Nat :=
  if !(unsigned cs).isEmpty && (unsigned cs).all Char.isDigit then
    some (Nat.ofDigitChars 10 (unsigned cs) 0)
  else none

/-- What follows a number stops at a first place to be the further digits of one up to
a limit. -/
inductive Breaks (limit n : Nat) : List Char → Fault → Prop where
  /-- There is no digit. -/
  | badDigit (front : List Char) {back : List Char} {c : Char} (digits : ∀ d ∈ front, d.isDigit)
      (within : Nat.ofDigitChars 10 front n ≤ limit) (bad : ¬c.isDigit) :
    Breaks limit n (front ++ c :: back) .badDigit
  /-- The digit that is there leads beyond the limit. -/
  | tooLarge (front : List Char) {back : List Char} {c : Char} (digits : ∀ d ∈ front, d.isDigit)
      (within : Nat.ofDigitChars 10 front n ≤ limit) (digit : c.isDigit)
      (beyond : limit < Nat.ofDigitChars 10 (front ++ [c]) n) :
    Breaks limit n (front ++ c :: back) .tooLarge

/-- Why a text is no numeral up to a limit. -/
inductive Refused (limit : Nat) : List Char → Fault → Prop where
  /-- There is no text. -/
  | empty : Refused limit [] .empty
  /-- There is nothing behind the plus. -/
  | bare : Refused limit ['+'] .badDigit
  /-- Its digits stop at some place to be those of a number up to the limit. -/
  | breaks {cs : List Char} {fault : Fault} (first : Breaks limit 0 (unsigned cs) fault) :
    Refused limit cs fault

/-- The value of a decimal digit. -/
theorem digit?_ten (c : Char) :
    digit? 10 c = if c.isDigit then some (c.toNat - '0'.toNat) else none := by
  have hle (a b : Char) : a ≤ b ↔ a.toNat ≤ b.toNat := Iff.rfl
  have hdigit : c.isDigit = true ↔ 48 ≤ c.toNat ∧ c.toNat ≤ 57 := Char.isDigit_iff_toNat
  simp only [digit?, hle, hdigit, Char.reduceToNat]
  by_cases digit : 48 ≤ c.toNat ∧ c.toNat ≤ 57
  · simp only [if_pos digit]
    exact if_pos (by omega)
  · simp only [if_neg digit]
    by_cases small : 97 ≤ c.toNat ∧ c.toNat ≤ 122
    · simp only [if_pos small]
      exact if_neg (by omega)
    · by_cases capital : 65 ≤ c.toNat ∧ c.toNat ≤ 90
      · simp only [if_neg small, if_pos capital]
        exact if_neg (by omega)
      · simp only [if_neg small, if_neg capital]

section Digits

variable {limit n : Nat} {cs front : List Char} {fault : Fault}

/-- Digits only make a number greater. -/
theorem le_ofDigitChars (cs : List Char) (n : Nat) : n ≤ Nat.ofDigitChars 10 cs n := by
  induction cs generalizing n with
  | nil => exact Nat.le_refl n
  | cons c rest ih =>
    have hrest := ih (10 * n + (c.toNat - '0'.toNat))
    rw [Nat.ofDigitChars_cons]
    omega

/-- Digits of a number within the limit are read as that number. -/
theorem digitsFrom_append (digits : ∀ d ∈ front, d.isDigit)
    (within : Nat.ofDigitChars 10 front n ≤ limit) (beyond : Fault) (rest : List Char) :
    digitsFrom 10 limit beyond n (front ++ rest) =
      digitsFrom 10 limit beyond (Nat.ofDigitChars 10 front n) rest := by
  induction front generalizing n with
  | nil => rfl
  | cons c front ih =>
    obtain ⟨hc, hfront⟩ := List.forall_mem_cons.mp digits
    rw [Nat.ofDigitChars_cons] at within ⊢
    have hle := Nat.le_trans (le_ofDigitChars front _) within
    rw [List.cons_append, digitsFrom, digit?_ten, if_pos hc, Nat.mul_comm n 10]
    exact (if_neg (by omega)).trans (ih hfront within)

theorem digitsFrom_eq_ok (digits : ∀ d ∈ cs, d.isDigit)
    (within : Nat.ofDigitChars 10 cs n ≤ limit) (beyond : Fault) :
    digitsFrom 10 limit beyond n cs = .ok (Nat.ofDigitChars 10 cs n) := by
  have happend := digitsFrom_append digits within beyond []
  rwa [List.append_nil] at happend

theorem Breaks.digitsFrom_eq_error (h : Breaks limit n cs fault) :
    digitsFrom 10 limit .tooLarge n cs = .error fault := by
  cases h with
  | badDigit front digits within bad =>
    rw [digitsFrom_append digits within, digitsFrom, digit?_ten, if_neg bad]
  | tooLarge front digits within digit beyond =>
    rw [Nat.ofDigitChars_append, Nat.ofDigitChars_cons, Nat.ofDigitChars_nil] at beyond
    rw [digitsFrom_append digits within, digitsFrom, digit?_ten, if_pos digit, Nat.mul_comm _ 10]
    exact if_pos beyond

/-- A digit more in front. -/
theorem Breaks.cons {c : Char} (digit : c.isDigit)
    (h : Breaks limit (10 * n + (c.toNat - '0'.toNat)) cs fault) :
    Breaks limit n (c :: cs) fault := by
  cases h with
  | badDigit front digits within bad =>
    exact .badDigit (c :: front) (List.forall_mem_cons.mpr ⟨digit, digits⟩) within bad
  | tooLarge front digits within last beyond =>
    exact .tooLarge (c :: front) (List.forall_mem_cons.mpr ⟨digit, digits⟩) within last beyond

/-- Either all is in order or there is a first place that is not. -/
theorem digits_or_breaks (hn : n ≤ limit) (cs : List Char) :
    ((∀ d ∈ cs, d.isDigit) ∧ Nat.ofDigitChars 10 cs n ≤ limit) ∨
      ∃ fault, Breaks limit n cs fault := by
  induction cs generalizing n with
  | nil => exact .inl ⟨nofun, hn⟩
  | cons c rest ih =>
    by_cases digit : c.isDigit
    · by_cases beyond : limit < 10 * n + (c.toNat - '0'.toNat)
      · exact .inr ⟨.tooLarge, .tooLarge [] nofun hn digit beyond⟩
      · obtain ⟨digits, within⟩ | ⟨fault, first⟩ := ih (Nat.le_of_not_lt beyond)
        · exact .inl ⟨List.forall_mem_cons.mpr ⟨digit, digits⟩, within⟩
        · exact .inr ⟨fault, first.cons digit⟩
    · exact .inr ⟨.badDigit, .badDigit [] nofun hn digit⟩

/-- Behind a plus or without one, the digits are read. -/
theorem natural_of_ne_nil (hcs : cs ≠ []) :
    natural limit cs = digits 10 limit .tooLarge (unsigned cs) := by
  unfold natural unsigned
  split <;> simp_all

theorem decimal?_eq_some_iff : decimal? cs = some n ↔
    unsigned cs ≠ [] ∧ (∀ d ∈ unsigned cs, d.isDigit) ∧
      Nat.ofDigitChars 10 (unsigned cs) 0 = n := by
  simp [decimal?, and_assoc]

theorem natural_eq_ok (hdecimal : decimal? cs = some n) (hn : n ≤ limit) :
    natural limit cs = .ok n := by
  obtain ⟨hunsigned, hdigits, rfl⟩ := decimal?_eq_some_iff.mp hdecimal
  have hcs : cs ≠ [] := fun hnil => hunsigned (by rw [hnil]; rfl)
  rw [natural_of_ne_nil hcs, digits, if_neg (by simpa using hunsigned), digitsFrom_eq_ok hdigits hn]

theorem Refused.natural_eq_error (h : Refused limit cs fault) :
    natural limit cs = .error fault := by
  cases h with
  | empty => rfl
  | bare => rfl
  | breaks first =>
    -- Where digits break, there is something.
    have hunsigned : unsigned cs ≠ [] := by
      intro hnil
      rw [hnil] at first
      generalize hempty : ([] : List Char) = ds at first
      cases first <;> simp at hempty
    have hcs : cs ≠ [] := fun hnil => hunsigned (by rw [hnil]; rfl)
    rw [natural_of_ne_nil hcs, digits, if_neg (by simpa using hunsigned), first.digitsFrom_eq_error]

/-- Either a text is a numeral up to the limit, or it is refused. -/
theorem decimal_or_refused (limit : Nat) (cs : List Char) :
    (∃ n, decimal? cs = some n ∧ n ≤ limit) ∨ ∃ fault, Refused limit cs fault := by
  by_cases hunsigned : unsigned cs = []
  · unfold unsigned at hunsigned
    split at hunsigned
    · exact .inr ⟨.badDigit, hunsigned ▸ .bare⟩
    · exact .inr ⟨.empty, hunsigned ▸ .empty⟩
  · obtain ⟨digits, within⟩ | ⟨fault, first⟩ := digits_or_breaks (Nat.zero_le limit) (unsigned cs)
    · exact .inl ⟨_, decimal?_eq_some_iff.mpr ⟨hunsigned, digits, rfl⟩, within⟩
    · exact .inr ⟨fault, .breaks first⟩

end Digits

end MazeRobot.Numeral

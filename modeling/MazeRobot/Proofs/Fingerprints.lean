import MazeRobot.Proofs.StoredReports
import MazeRobot.Trace.Fingerprint

/-!
# Fingerprints tell traces apart

What is digested for a trace are its lines, and no two traces have the same
lines, whatever their messages hold. A line ends at the first line feed, since
a value in compact JSON holds no control character, and what stands before it
is read back as its record. So the lines of one trace begin those of another
exactly if its records do, and this is still so once the characters are
encoded as bytes. Two traces that share a fingerprint are the same trace, or
they have made the digest collide.
-/

namespace MazeRobot

namespace Json

/-- There is no control character among some characters. -/
def Plain (cs : List Char) : Prop :=
  ∀ c ∈ cs, 32 ≤ c.toNat

instance (cs : List Char) : Decidable (Plain cs) :=
  List.decidableBAll (fun c : Char => 32 ≤ c.toNat) cs

theorem Plain.nil : Plain [] :=
  List.forall_mem_nil _

theorem Plain.cons {c : Char} {cs : List Char} (hc : 32 ≤ c.toNat) (h : Plain cs) :
    Plain (c :: cs) :=
  List.forall_mem_cons.mpr ⟨hc, h⟩

theorem Plain.append {cs ds : List Char} (h : Plain cs) (h' : Plain ds) : Plain (cs ++ ds) :=
  List.forall_mem_append.mpr ⟨h, h'⟩

theorem le_toNat_hexDigit {n : Nat} (h : n < 16) : 32 ≤ (hexDigit n).toNat := by
  have hall : ∀ n < 16, 32 ≤ (hexDigit n).toNat := by decide
  exact hall n h

/-- Whatever character a text holds, it is written without control characters. -/
theorem plain_escape (c : Char) : Plain (escape c) := by
  unfold escape
  split
  · decide
  split
  · decide
  split
  · decide
  split
  · decide
  split
  · decide
  split
  · decide
  split
  · decide
  split
  · next hcontrol =>
    have hhigh := le_toNat_hexDigit (n := c.toNat / 16) (by omega)
    have hlow := le_toNat_hexDigit (n := c.toNat % 16) (by omega)
    have hbefore : Plain ['\\', 'u', '0', '0'] := by decide
    exact hbefore.append (.cons hhigh (.cons hlow .nil))
  · next hplain => exact .cons (Nat.not_lt.mp hplain) .nil

theorem plain_quote (s : String) : Plain (quote s) := by
  have hall (cs : List Char) : Plain (escapeAll cs) := by
    induction cs with
    | nil => exact .nil
    | cons c rest ih => exact (plain_escape c).append ih
  exact .cons (by decide) ((hall _).append (by decide))

/-- A line feed in a text is written as two characters. -/
example : quote "a\n\"b\"" = "\"a\\n\\\"b\\\"\"".toList := by decide

theorem plain_natDigits (n : Nat) : Plain (natDigits n) := by
  intro d hd
  have hdigit : ('0' ≤ d && d ≤ '9') = true := Scan.isDigit_of_mem_natDigits hd
  have hzero : '0'.toNat ≤ d.toNat := of_decide_eq_true (Bool.and_eq_true_iff.mp hdigit).1
  exact Nat.le_trans (by decide) hzero

theorem plain_intDigits (n : Int) : Plain (intDigits n) := by
  cases n with
  | ofNat n => exact plain_natDigits n
  | negSucc n => exact .cons (by decide) (plain_natDigits (n + 1))

mutual

/-- A value in compact JSON holds no control character. -/
theorem plain_write (level : Nat) : (j : Json) → Plain (write .compact level j)
  | .null => by rw [write]; decide
  | .bool true => by rw [write]; decide
  | .bool false => by rw [write]; decide
  | .number n => plain_intDigits n
  | .string s => plain_quote s
  | .array [] => by rw [write]; decide
  | .array (first :: rest) =>
    .cons (by decide) <| .append .nil <| (plain_write (level + 1) first).append <|
      (plain_writeItems level rest).append <| .append .nil <| by decide
  | .object [] => by rw [write]; decide
  | .object ((name, first) :: rest) =>
    .cons (by decide) <| .append .nil <| (plain_quote name).append <| .cons (by decide) <|
      .append .nil <| (plain_write (level + 1) first).append <|
      (plain_writeMembers level rest).append <| .append .nil <| by decide

theorem plain_writeItems (level : Nat) : (items : List Json) → Plain (writeItems .compact level items)
  | [] => .nil
  | item :: rest =>
    .cons (by decide) <| .append .nil <| (plain_write (level + 1) item).append <|
      plain_writeItems level rest

theorem plain_writeMembers (level : Nat) :
    (members : List (String × Json)) → Plain (writeMembers .compact level members)
  | [] => .nil
  | (name, item) :: rest =>
    .cons (by decide) <| .append .nil <| (plain_quote name).append <| .cons (by decide) <|
      .append .nil <| (plain_write (level + 1) item).append <| plain_writeMembers level rest

end

end Json

namespace Record

/-- No two records are written alike. -/
theorem write_toJson_inj {r s : Record}
    (h : Json.write .compact 1 r.toJson = Json.write .compact 1 s.toJson) : r = s := by
  have hread := r.reads_toJson.compact
  have same : r.toJson.compact = s.toJson.compact := congrArg String.ofList h
  rw [same, s.reads_toJson.compact] at hread
  exact (Except.ok.inj hread).symm

/-- A line has no line feed before its end. -/
theorem not_mem_write_toJson (r : Record) : '\n' ∉ Json.write .compact 1 r.toJson := by
  intro hmem
  exact absurd (Json.plain_write 1 r.toJson _ hmem) (by decide)

end Record

namespace Trace

/-- What ends at the first terminator is told apart by what stands before it. -/
theorem eq_and_isPrefix_of_terminated {α : Type} {stop : α} {as bs rest more : List α}
    (ha : stop ∉ as) (hb : stop ∉ bs) (h : as ++ stop :: rest <+: bs ++ stop :: more) :
    as = bs ∧ rest <+: more := by
  induction as generalizing bs with
  | nil =>
    cases bs with
    | nil => exact ⟨rfl, (List.cons_prefix_cons.mp h).2⟩
    | cons b bs =>
      obtain ⟨rfl, -⟩ := List.cons_prefix_cons.mp h
      exact absurd List.mem_cons_self hb
  | cons a as ih =>
    cases bs with
    | nil =>
      obtain ⟨rfl, -⟩ := List.cons_prefix_cons.mp h
      exact absurd List.mem_cons_self ha
    | cons b bs =>
      obtain ⟨rfl, hrest⟩ := List.cons_prefix_cons.mp h
      obtain ⟨rfl, hmore⟩ :=
        ih (fun hmem => ha (.tail _ hmem)) (fun hmem => hb (.tail _ hmem)) hrest
      exact ⟨rfl, hmore⟩

/-- The lines of some records begin those of others exactly if the records do. -/
theorem flatMap_line_isPrefix_iff (rs ss : List Record) :
    rs.flatMap Record.line <+: ss.flatMap Record.line ↔ rs <+: ss := by
  induction rs generalizing ss with
  | nil => simp only [List.flatMap_nil, List.nil_prefix]
  | cons r rs ih =>
    cases ss with
    | nil => simp [Record.line]
    | cons s ss =>
      rw [List.flatMap_cons, List.flatMap_cons, List.cons_prefix_cons, ← ih, Record.line,
        Record.line, List.append_assoc, List.append_assoc]
      constructor
      · intro h
        obtain ⟨hsame, hrest⟩ :=
          eq_and_isPrefix_of_terminated r.not_mem_write_toJson s.not_mem_write_toJson h
        exact ⟨Record.write_toJson_inj hsame, hrest⟩
      · rintro ⟨rfl, hrest⟩
        exact (List.prefix_append_right_inj _).mpr (List.cons_prefix_cons.mpr ⟨rfl, hrest⟩)

/-- Some characters begin others exactly if their bytes do. -/
theorem exists_utf8Encode_append_eq_iff (cs ds : List Char) :
    (∃ rest, cs.utf8Encode ++ rest = ds.utf8Encode) ↔ cs <+: ds := by
  constructor
  · rintro ⟨rest, h⟩
    exact List.isPrefix_of_utf8Encode_append_eq_utf8Encode rest h
  · rintro ⟨more, rfl⟩
    exact ⟨more.utf8Encode, List.utf8Encode_append.symm⟩

/-- The bytes that are digested are those of the lines. -/
theorem digestInput_eq (t : Trace) : t.digestInput = t.lines.utf8Encode :=
  String.toByteArray_ofList

/-- What is digested for one trace begins what is digested for another one exactly if
its records begin the records of the other. -/
theorem exists_digestInput_append_eq_iff (t u : Trace) :
    (∃ rest, t.digestInput ++ rest = u.digestInput) ↔ t.toList <+: u.toList := by
  rw [digestInput_eq, digestInput_eq, exists_utf8Encode_append_eq_iff, lines, lines,
    flatMap_line_isPrefix_iff]

theorem toList_inj {t u : Trace} (h : t.toList = u.toList) : t = u := by
  cases t
  cases u
  exact congrArg Trace.mk (Array.toList_inj.mp h)

/-- No two traces have the same bytes to be digested. -/
theorem digestInput_inj {t u : Trace} (h : t.digestInput = u.digestInput) : t = u := by
  have begins {t u : Trace} (h : t.digestInput = u.digestInput) : t.toList <+: u.toList :=
    (exists_digestInput_append_eq_iff t u).mp ⟨.empty, by rw [ByteArray.append_empty, h]⟩
  have hlength := Nat.le_antisymm (begins h).length_le (begins h.symm).length_le
  exact toList_inj ((begins h).eq_of_length hlength)

end Trace

namespace Blake3

theorem hexDigit_inj {m n : Nat} (hm : m < 16) (hn : n < 16) (h : hexDigit m = hexDigit n) :
    m = n := by
  have hall : ∀ m < 16, ∀ n < 16, hexDigit m = hexDigit n → m = n := by decide
  exact hall m hm n hn h

/-- The digits of a byte tell it. -/
theorem hexByte_inj {v w : UInt32} (h : hexByte v = hexByte w) :
    v.toNat % 256 = w.toNat % 256 := by
  obtain ⟨hhigh, hrest⟩ := List.cons.inj h
  have hlow := (List.cons.inj hrest).1
  have high := hexDigit_inj (by omega) (by omega) hhigh
  have low := hexDigit_inj (by omega) (by omega) hlow
  omega

/-- The low byte of a word, as a number. -/
theorem toNat_and_byte (w : UInt32) : (w &&& 255).toNat = w.toNat % 256 := by
  rw [UInt32.toNat_and]
  exact Nat.and_two_pow_sub_one_eq_mod w.toNat 8

/-- The digits of a word tell it, byte for byte. -/
theorem hexWord_inj {v w : UInt32} (h : hexWord v = hexWord w) : v = w := by
  obtain ⟨h, h3⟩ := List.append_inj h rfl
  obtain ⟨h, h2⟩ := List.append_inj h rfl
  obtain ⟨h0, h1⟩ := List.append_inj h rfl
  have b0 := hexByte_inj h0
  have b1 := hexByte_inj h1
  have b2 := hexByte_inj h2
  have b3 := hexByte_inj h3
  have s1 : (8 : UInt32).toNat % 32 = 8 := rfl
  have s2 : (16 : UInt32).toNat % 32 = 16 := rfl
  have s3 : (24 : UInt32).toNat % 32 = 24 := rfl
  simp only [toNat_and_byte, UInt32.toNat_shiftRight, Nat.shiftRight_eq_div_pow, s1, s2, s3]
    at b0 b1 b2 b3
  have hv := v.toNat_lt
  have hw := w.toNat_lt
  exact UInt32.toNat_inj.mp (by omega)

theorem flatMap_hexWord_inj {vs ws : List UInt32} (hlength : vs.length = ws.length)
    (h : vs.flatMap hexWord = ws.flatMap hexWord) : vs = ws := by
  induction vs generalizing ws with
  | nil => exact (List.eq_nil_of_length_eq_zero hlength.symm).symm
  | cons v vs ih =>
    cases ws with
    | nil => cases hlength
    | cons w ws =>
      obtain ⟨hfirst, hrest⟩ := List.append_inj h rfl
      rw [hexWord_inj hfirst, ih (Nat.succ.inj hlength) hrest]

/-- The numeral of a digest tells the digest. -/
theorem hex_eq_iff (a b : ByteArray) : hex a = hex b ↔ digest a = digest b := by
  constructor
  · intro h
    have hdigits := String.ofList_inj.mp h
    exact Vector.toList_inj.mp (flatMap_hexWord_inj (by simp) hdigits)
  · intro h
    rw [hex, hex, h]

/-- Two different inputs have one digest. -/
def Collide (a b : ByteArray) : Prop :=
  a ≠ b ∧ digest a = digest b

end Blake3

namespace Trace

/-- What is digested for a trace is unambiguous. It is the same for two traces only if
they are the same, and for one trace it begins what it is for the other exactly if the
one trace begins the other. Two traces have one fingerprint only if they are the same,
or if what is digested for them collides. -/
theorem digestInput_unambiguous (t u : Trace) :
    (t.digestInput = u.digestInput ↔ t = u) ∧
      ((∃ rest, t.digestInput ++ rest = u.digestInput) ↔ t.toList <+: u.toList) ∧
      (t.fingerprint = u.fingerprint ↔
        t = u ∨ Blake3.Collide t.digestInput u.digestInput) := by
  have hsame : t.digestInput = u.digestInput ↔ t = u := ⟨digestInput_inj, congrArg digestInput⟩
  refine ⟨hsame, exists_digestInput_append_eq_iff t u, ?_⟩
  rw [fingerprint, fingerprint, Blake3.hex_eq_iff, Blake3.Collide, ne_eq, hsame]
  constructor
  · intro h
    by_cases he : t = u
    · exact .inl he
    · exact .inr ⟨he, h⟩
  · rintro (rfl | ⟨-, h⟩)
    · rfl
    · exact h

end Trace

end MazeRobot

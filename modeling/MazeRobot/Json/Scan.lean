import MazeRobot.Json.Basic

/-!
# Reading JSON text

Text is read into a tree that may have a hole: where the text breaks, the tree
holds the fault, and every list it stands in ends there. A consumer walks the
tree from left to right and meets the faults of the text and its own demands
in the order in which they stand in the text, so the first problem is the one
it reports.

Three readings of a broken place are kept. A strict consumer wants the value
and minds, for instance, half of a surrogate pair; a lax one only skips the
value; a third wants nothing but the end of the list.
-/

namespace MazeRobot

/-- Why a text was refused. -/
inductive Fault where
  /-- The text is not JSON. -/
  | malformed
  /-- The text is JSON of another shape than asked for. -/
  | mismatched
  /-- The text ended too early. -/
  | truncated
  deriving DecidableEq, Repr

/-- What a broken place means to its consumers. -/
structure Break where
  /-- To a consumer that wants the value. -/
  strict : Fault
  /-- To a consumer that skips the value. -/
  lax : Fault
  /-- To a consumer that wants the list to end before the place. -/
  closing : Fault
  deriving DecidableEq, Repr

namespace Break

/-- A place that means one thing to a strict and another one to a lax consumer. -/
def between (strict lax : Fault) : Break := ⟨strict, lax, strict⟩

/-- A place that all consumers take alike. -/
def both (f : Fault) : Break := between f f

/-- The same place behind a comma, where no list can end. -/
def behindComma (b : Break) : Break := { b with closing := .malformed }

end Break

/-- What a numeral denotes, as far as any consumer cares. -/
inductive Numeral where
  /-- An integer written without fraction, exponent or a sign before zero. -/
  | whole (value : Int)
  /-- Any other number. -/
  | real
  /-- A number beyond the range of a double. -/
  | huge
  deriving DecidableEq, Repr

/-- The tree of a text, up to the place where the text breaks. -/
inductive Scan where
  /-- The absent value. -/
  | null
  /-- A truth value. -/
  | bool (value : Bool)
  /-- A number. -/
  | number (value : Numeral)
  /-- A text, or the fault of one that no sequence of characters denotes. -/
  | text (value : Except Fault String)
  /-- Items in order, and the break that took the place of the closing bracket. -/
  | array (items : List Scan) (tail : Option Break)
  /-- Members in order, and the break that took the place of the closing brace. -/
  | object (members : List (Except Fault String × Scan)) (tail : Option Break)
  /-- A place where no value could be read. -/
  | broken (why : Break)

namespace Scan

/-- Blanks between tokens. -/
def isBlank (c : Char) : Bool :=
  c == ' ' || c == '\n' || c == '\t' || c == '\r'

/-- The text behind its leading blanks. -/
def skipBlanks : List Char → List Char
  | [] => []
  | c :: rest => if isBlank c then skipBlanks rest else c :: rest

/-- The value of a hexadecimal digit. -/
def hexValue? (c : Char) : Option Nat :=
  if '0' ≤ c ∧ c ≤ '9' then some (c.toNat - 48)
  else if 'a' ≤ c ∧ c ≤ 'f' then some (c.toNat - 87)
  else if 'A' ≤ c ∧ c ≤ 'F' then some (c.toNat - 55)
  else none

/-- One element of a text literal. -/
inductive Unit16 where
  /-- A character, raw or as a short escape. -/
  | char (c : Char)
  /-- A four-digit escape, which is half of a surrogate pair or a character. -/
  | code (n : Nat)

/-- The character that a short escape stands for. -/
def shortEscape? (c : Char) : Option Char :=
  if c = '"' then some '"'
  else if c = '\\' then some '\\'
  else if c = '/' then some '/'
  else if c = 'b' then some '\x08'
  else if c = 'f' then some '\x0c'
  else if c = 'n' then some '\n'
  else if c = 'r' then some '\r'
  else if c = 't' then some '\t'
  else none

/-- The elements of a literal behind its opening quote, and the text behind
its closing quote or the fault that broke it. A four-digit escape needs four
more bytes before their value matters. -/
def literal : List Char → List Unit16 × Except Fault (List Char)
  | [] => ([], .error .truncated)
  | '"' :: rest => ([], .ok rest)
  | ['\\'] => ([], .error .truncated)
  | '\\' :: 'u' :: a :: b :: c :: d :: rest =>
    match hexValue? a, hexValue? b, hexValue? c, hexValue? d with
    | some a, some b, some c, some d =>
      let (units, tail) := literal rest
      (.code (((a * 16 + b) * 16 + c) * 16 + d) :: units, tail)
    | _, _, _, _ => ([], .error .malformed)
  | '\\' :: 'u' :: rest =>
    ([], .error (if (String.ofList rest).utf8ByteSize < 4 then .truncated else .malformed))
  | '\\' :: e :: rest =>
    match shortEscape? e with
    | some c => let (units, tail) := literal rest; (.char c :: units, tail)
    | none => ([], .error .malformed)
  | c :: rest =>
    if c.toNat < 32 then ([], .error .malformed)
    else let (units, tail) := literal rest; (.char c :: units, tail)

/-- Whether a code is the first half of a surrogate pair. -/
def isHigh (n : Nat) : Bool := 0xD800 ≤ n && n < 0xDC00

/-- Whether a code is the second half of a surrogate pair. -/
def isLow (n : Nat) : Bool := 0xDC00 ≤ n && n < 0xE000

/-- The characters that elements denote. A half of a pair must have its other
half next to it; `atEnd` is the fault of a first half at the very end. -/
def assemble (atEnd : Fault) : List Unit16 → Except Fault (List Char)
  | [] => .ok []
  | .char c :: rest =>
    match assemble atEnd rest with
    | .ok cs => .ok (c :: cs)
    | .error f => .error f
  | .code n :: rest =>
    if isLow n then .error .malformed
    else if isHigh n then
      match rest with
      | [] => .error atEnd
      | .code low :: rest =>
        if isLow low then
          match assemble atEnd rest with
          | .ok cs => .ok (Char.ofNat ((n - 0xD800) * 1024 + (low - 0xDC00) + 0x10000) :: cs)
          | .error f => .error f
        else .error .malformed
      | .char _ :: _ => .error .malformed
    else
      match assemble atEnd rest with
      | .ok cs => .ok (Char.ofNat n :: cs)
      | .error f => .error f

/-- Reads a literal behind its opening quote. -/
def readLiteral (cs : List Char) : Except Break (Except Fault String × List Char) :=
  match literal cs with
  | (units, .ok rest) =>
    match assemble .malformed units with
    | .ok cs => .ok (.ok (String.ofList cs), rest)
    | .error f => .ok (.error f, rest)
  | (units, .error f) =>
    match assemble f units with
    | .ok _ => .error (.both f)
    | .error g => .error (.between g f)

/-- Whether a character is a decimal digit. -/
def isDigit (c : Char) : Bool := '0' ≤ c && c ≤ '9'

/-- Splits the leading digits off. -/
def digits : List Char → List Char × List Char
  | [] => ([], [])
  | c :: rest =>
    if isDigit c then let (ds, rest) := digits rest; (c :: ds, rest) else ([], c :: rest)

/-- The number that decimal digits denote, continuing from `acc`. -/
def digitsValue (acc : Nat) (ds : List Char) : Nat :=
  ds.foldl (fun acc c => acc * 10 + (c.toNat - 48)) acc

/-- The least natural number that rounds beyond the largest finite double. -/
def doubleLimit : Nat := Nat.pow 2 1024 - Nat.pow 2 970

/-- The significant bits of a double. -/
def doubleBits : Nat := 53

/-- A natural number rounded to the significant bits of a double; a tie goes to the even
neighbour. -/
def rounded (n : Nat) : Nat :=
  let excess := n.log2 + 1 - doubleBits
  let unit := Nat.pow 2 excess
  let down := n / unit
  let rest := n % unit
  if unit < 2 * rest ∨ (unit = 2 * rest ∧ down % 2 = 1) then (down + 1) * unit else down * unit

/-- Whether a word times ten to the power `exponent` is taken to lie beyond the range of a
double: both factors are rounded before the product is. -/
def isHuge (word : Nat) (exponent : Int) : Bool :=
  if word = 0 ∨ exponent ≤ 0 then false
  else if 308 < exponent then true
  else doubleLimit ≤ rounded word * rounded (Nat.pow 10 exponent.toNat)

/-- The greatest word of 64 bits. -/
def maxWord : Nat := Nat.pow 2 64 - 1

/-- Takes decimal digits into a word as long as it remains one. Gives the word and how many
digits there are from the first one on that does not fit. -/
def wordOf (acc : Nat) : List Char → Nat × Nat
  | [] => (acc, 0)
  | c :: rest =>
    let next := acc * 10 + (c.toNat - 48)
    if next ≤ maxWord then wordOf next rest else (acc, rest.length + 1)

/-- Whether a numeral with these digits before and behind its point and this exponent is
taken to lie beyond the range of a double. Digits that do not fit into a word do not
count, but those before the point shift it. -/
def isBeyond (whole fraction : List Char) (exponent : Int) : Bool :=
  let (word, shift) := wordOf 0 whole
  let (word, left) := wordOf word fraction
  isHuge word (exponent + shift - (fraction.length - left : Nat))

/-- The fault of a numeral that breaks where a digit is due: a strict consumer
minds the end of the text, a lax one only the missing digit. -/
def missingDigit : List Char → Break
  | [] => .between .truncated .malformed
  | _ :: _ => .both .malformed

/-- Reads the exponent of a numeral, if there is one. -/
def readExponent : List Char → Except Break (Option Int × List Char)
  | c :: rest =>
    if c = 'e' ∨ c = 'E' then
      let (negative, rest) :=
        match rest with
        | '+' :: rest => (false, rest)
        | '-' :: rest => (true, rest)
        | rest => (false, rest)
      match digits rest with
      | ([], rest) => .error (missingDigit rest)
      | (ds, rest) =>
        let n : Int := digitsValue 0 ds
        .ok (some (if negative then -n else n), rest)
    else .ok (none, c :: rest)
  | [] => .ok (none, [])

/-- Reads the fraction of a numeral, if there is one. -/
def readFraction : List Char → Except Break (Option (List Char) × List Char)
  | '.' :: rest =>
    match digits rest with
    | ([], rest) => .error (missingDigit rest)
    | (ds, rest) => .ok (some ds, rest)
  | rest => .ok (none, rest)

/-- Reads a numeral behind its sign. A zero stands alone before the point. -/
def readNumeral (negative : Bool) (cs : List Char) : Except Break (Numeral × List Char) :=
  match digits cs with
  | ([], rest) => .error (missingDigit rest)
  | ('0' :: _ :: _, _) => .error (.both .malformed)
  | (ds, rest) =>
    match readFraction rest with
    | .error b => .error b
    | .ok (fraction, rest) =>
      match readExponent rest with
      | .error b => .error b
      | .ok (exponent, rest) =>
        let places := fraction.getD []
        let mantissa := digitsValue (digitsValue 0 ds) places
        if isBeyond ds places (exponent.getD 0) then .ok (.huge, rest)
        else if fraction.isNone && exponent.isNone && !(negative && mantissa == 0) then
          .ok (.whole (if negative then -(mantissa : Int) else mantissa), rest)
        else .ok (.real, rest)

/-- Reads the rest of a keyword. -/
def readWord (value : Scan) : List Char → List Char → Scan × List Char
  | [], rest => (value, rest)
  | _ :: _, [] => (.broken (.both .truncated), [])
  | c :: word, d :: rest =>
    if c = d then readWord value word rest else (.broken (.both .malformed), [])

/-- Whether a tree ends at a place where the text breaks. -/
def isOpen : Scan → Bool
  | array _ tail => tail.isSome
  | object _ tail => tail.isSome
  | broken _ => true
  | _ => false

/-- What stands in place of a closing bracket behind a tree that is open. -/
def openTail : Scan → Break
  | array _ (some b) => b
  | object _ (some b) => b
  | broken b => b
  | _ => .both .truncated

mutual

/-- Reads a value and gives the text behind it. -/
def value : Nat → List Char → Scan × List Char
  | 0, _ => (.broken (.both .malformed), [])
  | fuel + 1, cs =>
    match skipBlanks cs with
    | [] => (.broken (.both .truncated), [])
    | '"' :: rest =>
      match readLiteral rest with
      | .ok (s, rest) => (.text s, rest)
      | .error b => (.broken b, [])
    | '[' :: rest =>
      let (items, tail, rest) := firstItem fuel rest
      (.array items tail, rest)
    | '\x7b' :: rest =>
      let (members, tail, rest) := firstMember fuel rest
      (.object members tail, rest)
    | 'n' :: rest => readWord .null ['u', 'l', 'l'] rest
    | 't' :: rest => readWord (.bool true) ['r', 'u', 'e'] rest
    | 'f' :: rest => readWord (.bool false) ['a', 'l', 's', 'e'] rest
    | '-' :: rest =>
      match readNumeral true rest with
      | .ok (n, rest) => (.number n, rest)
      | .error b => (.broken b, [])
    | c :: rest =>
      if isDigit c then
        match readNumeral false (c :: rest) with
        | .ok (n, rest) => (.number n, rest)
        | .error b => (.broken b, [])
      else (.broken (.both .malformed), [])

/-- Reads the items behind an opening bracket. -/
def firstItem : Nat → List Char → List Scan × Option Break × List Char
  | 0, _ => ([], some (.both .malformed), [])
  | fuel + 1, cs =>
    match skipBlanks cs with
    | [] => ([], some (.both .truncated), [])
    | ']' :: rest => ([], none, rest)
    | rest => item fuel rest

/-- Reads one item and all that follow it. -/
def item : Nat → List Char → List Scan × Option Break × List Char
  | 0, _ => ([], some (.both .malformed), [])
  | fuel + 1, cs =>
    let (first, rest) := value fuel cs
    if first.isOpen then ([first], some first.openTail, [])
    else
      match skipBlanks rest with
      | [] => ([first], some (.both .truncated), [])
      | ']' :: rest => ([first], none, rest)
      | ',' :: rest =>
        let (items, tail, rest) := item fuel rest
        (first :: items, tail, rest)
      | _ => ([first], some (.both .malformed), [])

/-- Reads the members behind an opening brace. -/
def firstMember : Nat → List Char →
    List (Except Fault String × Scan) × Option Break × List Char
  | 0, _ => ([], some (.both .malformed), [])
  | fuel + 1, cs =>
    match skipBlanks cs with
    | [] => ([], some (.both .truncated), [])
    | '\x7d' :: rest => ([], none, rest)
    | rest => member fuel rest

/-- Reads one member and all that follow it. A name must be a text; a name
without a colon still counts as a name. -/
def member : Nat → List Char →
    List (Except Fault String × Scan) × Option Break × List Char
  | 0, _ => ([], some (.both .malformed), [])
  | fuel + 1, cs =>
    match skipBlanks cs with
    | [] => ([], some (.both .truncated), [])
    | '"' :: rest =>
      match readLiteral rest with
      | .error b => ([], some b, [])
      | .ok (name, rest) =>
        match skipBlanks rest with
        | [] => ([(name, .broken (.both .truncated))], some (.both .truncated), [])
        | ':' :: rest =>
          let (first, rest) := value fuel rest
          if first.isOpen then ([(name, first)], some first.openTail, [])
          else
            match skipBlanks rest with
            | [] => ([(name, first)], some (.both .truncated), [])
            | '\x7d' :: rest => ([(name, first)], none, rest)
            | ',' :: rest =>
              let (members, tail, rest) := member fuel rest
              ((name, first) :: members, tail.map Break.behindComma, rest)
            | _ => ([(name, first)], some (.both .malformed), [])
        | _ => ([(name, .broken (.both .malformed))], some (.both .malformed), [])
    | _ => ([], some (.both .malformed), [])

end

/-- Reads one value from a text and gives what stands behind it. Each call
takes at least one character within two steps, so twice the length is fuel
enough. -/
def ofText (text : String) : Scan × List Char :=
  let cs := text.toList
  value (2 * cs.length + 3) cs

end Scan

end MazeRobot

import MazeRobot.Script.Text.Blank
import MazeRobot.Script.Token

/-!
# From text to tokens

The text is cut from left to right, always taking the longest symbol. Comments
and blanks separate tokens and are dropped; block comments nest. A text between
backquotes may have holes: each is a block in braces, and the text goes on
behind the brace that closes it, so open holes are kept on a stack together
with the braces opened inside them.
-/

namespace MazeRobot.Script.Lexer

/-- The text still to be read, and the place of its first character. -/
structure Cursor where
  /-- The text. -/
  rest : List Char
  /-- Where it begins. -/
  place : Place

/-- The place of the next character on a line. -/
def next (p : Place) : Place := ⟨p.line, p.column + 1⟩

/-- The place of the character before, on the same line. -/
def before (p : Place) : Place := ⟨p.line, p.column - 1⟩

/-- The beginning of the next line. -/
def nextLine (p : Place) : Place := ⟨p.line + 1, 1⟩

/-- The place `n` characters on. -/
def ahead (p : Place) (n : Nat) : Place := ⟨p.line, p.column + n⟩

/-- The place behind a character. -/
def past (c : Char) (p : Place) : Place := if c = '\n' then nextLine p else next p

/-- Blanks are those of ASCII; any other one is a character out of place. -/
def isBlank (c : Char) : Bool :=
  c == ' ' || c == '\t' || c == '\n' || c == '\r' || c == '\x0c'

/-- Whether a character may begin a name; only ASCII letters may. -/
def startsName (c : Char) : Bool := c.isAlpha || c == '_'

/-- Whether a character may go on in a name. -/
def continuesName (c : Char) : Bool := c.isAlphanum || c == '_'

/-- The value of a hexadecimal digit. -/
def hexValue? (c : Char) : Option Nat :=
  if '0' ≤ c ∧ c ≤ '9' then some (c.toNat - 48)
  else if 'a' ≤ c ∧ c ≤ 'f' then some (c.toNat - 87)
  else if 'A' ≤ c ∧ c ≤ 'F' then some (c.toNat - 55)
  else none

/-- Skips a line comment, which any line end closes. -/
def skipLine : List Char → Place → Cursor
  | [], p => ⟨[], p⟩
  | '\r' :: '\n' :: rest, p => ⟨rest, nextLine p⟩
  | '\r' :: rest, p => ⟨rest, nextLine p⟩
  | '\n' :: rest, p => ⟨rest, nextLine p⟩
  | _ :: rest, p => skipLine rest (next p)

/-- Skips a block comment that is `depth` levels deep. The end of the text
ends every comment. -/
def skipBlock : Nat → List Char → Place → Cursor
  | _, [], p => ⟨[], p⟩
  | depth, '*' :: '/' :: rest, p =>
    if depth ≤ 1 then ⟨rest, ahead p 2⟩ else skipBlock (depth - 1) rest (ahead p 2)
  | depth, '/' :: '*' :: rest, p => skipBlock (depth + 1) rest (ahead p 2)
  | depth, c :: rest, p => skipBlock depth rest (past c p)

/-- Reads the digits of an escape. Gives the character, or the text read so far
with the place of its last character. -/
def escapeDigits : Nat → Nat → List Char → List Char → Place →
    Except (String × Place) (Char × Cursor)
  | 0, value, seen, rest, p =>
    if value.isValidChar then .ok (Char.ofNat value, ⟨rest, p⟩)
    else .error (String.ofList seen.reverse, before p)
  | _ + 1, _, seen, [], p => .error (String.ofList seen.reverse, before p)
  | count + 1, value, seen, c :: rest, p =>
    match hexValue? c with
    | some d => escapeDigits count (value * 16 + d) (c :: seen) rest (next p)
    | none => .error (String.ofList (c :: seen).reverse, p)

/-- Leaves out a carriage return that a line feed follows. -/
def dropReturn : List Char → Place → Cursor
  | '\r' :: '\n' :: rest, p => ⟨'\n' :: rest, next p⟩
  | rest, p => ⟨rest, p⟩

/-- The rules of a literal between quotes. -/
structure Quotes where
  /-- The quote on both ends. -/
  mark : Char
  /-- Whether a backslash at the end of a line joins the next line. -/
  joinsLines : Bool
  /-- The greatest number of bytes; zero for any number. -/
  limit : Nat
  /-- Where the opening quote stands. -/
  start : Place

/-- Whether a literal has grown beyond its limit. -/
def Quotes.overlong (q : Quotes) (bytes : Nat) : Bool :=
  q.limit != 0 && q.limit < bytes

/-- Reads a literal behind its opening quote; `seen` holds its characters so
far, last one first, and `bytes` counts them. After a joined line, blanks are
dropped up to column `margin`, until a character stands there that is neither a
blank nor escaped. Each step takes a character, so the length of the text is fuel
enough. A complaint comes with what is left to be read: the next line if the quote is
missing on its own, and nothing otherwise. -/
def quoted (q : Quotes) : Nat → List Char → Nat → Nat → List Char → Place →
    Except (ParseError × Cursor) (String × Cursor)
  | 0, _, _, _, _, p => .error (⟨.openString, q.start⟩, ⟨[], next p⟩)
  | _ + 1, _, _, _, [], p => .error (⟨.openString, q.start⟩, ⟨[], next p⟩)
  | fuel + 1, seen, bytes, margin, c :: rest, p =>
    if q.overlong bytes then .error (⟨.stringTooLong q.limit, q.start⟩, ⟨[], p⟩)
    else
      let push (c : Char) (rest : List Char) (p : Place) :=
        quoted q fuel (c :: seen) (bytes + c.utf8Size) 0 rest p
      let pushEscaped (c : Char) (rest : List Char) (p : Place) :=
        quoted q fuel (c :: seen) (bytes + c.utf8Size) margin rest p
      if c = q.mark then
        match rest with
        | d :: rest =>
          if d = q.mark then push c rest (ahead p 2)
          else .ok (String.ofList seen.reverse, ⟨d :: rest, next p⟩)
        | [] => .ok (String.ofList seen.reverse, ⟨[], next p⟩)
      else if c = '\\' then
        match dropReturn rest (next p) with
        | ⟨[], p⟩ => .error (⟨.openString, q.start⟩, ⟨[], next p⟩)
        | ⟨e :: rest, p⟩ =>
          let escape (digits : Nat) :=
            match escapeDigits digits 0 [e, '\\'] rest (next p) with
            | .ok (d, cursor) => pushEscaped d cursor.rest cursor.place
            | .error (text, place) => .error (⟨.badEscape text, place⟩, ⟨[], place⟩)
          if e = q.mark then pushEscaped e rest (next p)
          else if e = 'n' then pushEscaped '\n' rest (next p)
          else if e = 'r' then pushEscaped '\r' rest (next p)
          else if e = 't' then pushEscaped '\t' rest (next p)
          else if e = '\\' then pushEscaped '\\' rest (next p)
          else if e = 'x' then escape 2
          else if e = 'u' then escape 4
          else if e = 'U' then escape 8
          else if e = '\n' ∧ q.joinsLines then
            quoted q fuel seen bytes (q.start.column + 1) rest (nextLine p)
          else if e = '\n' then .error (⟨.openString, q.start⟩, ⟨rest, p⟩)
          else .error (⟨.badEscape (String.ofList ['\\', e]), p⟩, ⟨[], p⟩)
      else if c = '\n' then .error (⟨.openString, q.start⟩, ⟨rest, p⟩)
      else if c = '\r' ∧ rest.head? = some '\n' then quoted q fuel seen bytes margin rest (next p)
      else if Text.isBlank c ∧ p.column < margin then quoted q fuel seen bytes margin rest (next p)
      else push c rest (next p)

/-- How a stretch of text between backquotes ends. -/
inductive Stretch where
  /-- At the closing quote. -/
  | closed (text : String) (cursor : Cursor)
  /-- At a hole, whose opening brace comes next. -/
  | hole (text : String) (cursor : Cursor)
  /-- With the script. -/
  | ended
  /-- Beyond its limit. -/
  | overlong

/-- Reads a stretch of text between backquotes. Only the doubled quote, the hole and
a backslash in front of what would be a hole are special in it; that backslash takes
no column. -/
def stretch (limit : Nat) : List Char → Nat → List Char → Place → Stretch
  | _, bytes, [], _ => if limit != 0 && limit < bytes then .overlong else .ended
  | seen, bytes, '\x60' :: '\x60' :: rest, p =>
    if limit != 0 && limit < bytes then .overlong
    else stretch limit ('\x60' :: seen) (bytes + 1) rest (ahead p 2)
  | seen, bytes, '\x60' :: rest, p =>
    if limit != 0 && limit < bytes then .overlong
    else .closed (String.ofList seen.reverse) ⟨rest, next p⟩
  | seen, bytes, '$' :: '\x7b' :: rest, p =>
    if limit != 0 && limit < bytes then .overlong
    else .hole (String.ofList seen.reverse) ⟨'\x7b' :: rest, next p⟩
  | seen, bytes, '\\' :: '$' :: '\x7b' :: rest, p =>
    if limit != 0 && limit < bytes then .overlong
    else stretch limit ('\x7b' :: '$' :: seen) (bytes + 2) rest (ahead p 2)
  | seen, bytes, '\r' :: '\n' :: rest, p =>
    if limit != 0 && limit < bytes then .overlong
    else stretch limit ('\n' :: seen) (bytes + 1) rest (nextLine p)
  | seen, bytes, c :: rest, p =>
    if limit != 0 && limit < bytes then .overlong
    else stretch limit (c :: seen) (bytes + c.utf8Size) rest (past c p)

/-- The place of the first character of a stretch behind a hole. A doubled quote stands at
its second character, and what is empty has no place. -/
def firstPlace : List Char → Place → Place
  | [], _ => .nowhere
  | '\x60' :: '\x60' :: _, p => next p
  | _, p => p

/-- How many times a character stands at the front. -/
def runOf (c : Char) : List Char → Nat
  | [] => 0
  | d :: rest => if d = c then runOf c rest + 1 else 0

/-- What a quote with number signs behind it adds to a raw literal that goes on; the last
character comes first. -/
def quoteWithSigns (signs : Nat) (seen : List Char) : List Char :=
  List.replicate signs '#' ++ '"' :: seen

/-- Reads a raw literal behind its opening quote: nothing is special in it, and it ends with
a quote and `marks` number signs. `bytes` counts its characters so far, and `signs` the number
signs behind a quote that may be the last one. The character that decides that it is not takes
a column, also if it is the end of a line. -/
def rawText (limit marks : Nat) (seen : List Char) (bytes : Nat) (signs : Option Nat) :
    List Char → Place → Except Complaint (List Char × Cursor)
  | [], _ => .error (if limit != 0 && limit < bytes then .stringTooLong limit else .openString)
  | c :: rest, p =>
    if limit != 0 && limit < bytes then .error (.stringTooLong limit)
    else
      match signs with
      | none =>
        if c = '"' then rawText limit marks seen bytes (some 0) rest (next p)
        else rawText limit marks (c :: seen) (bytes + c.utf8Size) none rest (past c p)
      | some n =>
        if c = '#' then
          if n + 1 = marks then .ok (seen.reverse, ⟨rest, next p⟩)
          else rawText limit marks seen bytes (some (n + 1)) rest (next p)
        else
          let seen := quoteWithSigns n seen
          let bytes := bytes + n + 1
          if c = '"' then rawText limit marks seen bytes (some 0) rest (next p)
          else rawText limit marks (c :: seen) (bytes + c.utf8Size) none rest (next p)

/-- Reads a raw literal. -/
def raw (limit : Nat) (cs : List Char) (p : Place) : Token × Cursor :=
  let marks := runOf '#' cs
  match cs.drop marks with
  | '"' :: rest =>
    match rawText limit marks [] 0 none rest (ahead p (marks + 1)) with
    | .ok (text, cursor) => (.string (String.ofList text), cursor)
    | .error why => (.bad why, ⟨[], p⟩)
  | c :: rest => (.bad (.unexpected (String.singleton c)), ⟨rest, p⟩)
  | [] => (.bad .openString, ⟨[], p⟩)

/-- The number that digits denote in a base, if all of them are digits of it
and there is at least one. -/
def readBase (base : Nat) (digits : List Char) : Option Nat :=
  if digits.isEmpty then none
  else
    digits.foldl (fun acc c =>
      match acc, hexValue? c with
      | some n, some d => if d < base then some (n * base + d) else none
      | _, _ => none) (some 0)

/-- What the reading of a number knows of the characters before. -/
structure Numeral where
  /-- Its characters so far, last one first, without the separators. -/
  seen : List Char
  /-- Its base, if a letter behind a zero gave one. -/
  base : Option Nat
  /-- Whether a point can no longer belong to it. -/
  pointed : Bool
  /-- Whether it has an exponent. -/
  exponent : Bool

/-- The base that a letter stands for. -/
def baseOf? (c : Char) : Option Nat :=
  if c = 'x' ∨ c = 'X' then some 16
  else if c = 'o' ∨ c = 'O' then some 8
  else if c = 'b' ∨ c = 'B' then some 2
  else none

/-- Reads the characters of a number. A point belongs to it if a digit or
something that can begin no property follows; an exponent if a digit or a sign
follows; and a zero in front with a letter gives the base. -/
def digits : Nat → Numeral → List Char → Place → Numeral × Cursor
  | 0, n, rest, p => (n, ⟨rest, p⟩)
  | _, n, [], p => (n, ⟨[], p⟩)
  | fuel + 1, n, c :: rest, p =>
    let stop := (n, Cursor.mk (c :: rest) p)
    let isDigit (d : Char) : Bool := (hexValue? d).any (· < n.base.getD 10)
    if c = '_' then digits fuel n rest (next p)
    else if isDigit c then digits fuel { n with seen := c :: n.seen } rest (next p)
    else if c = '.' ∧ !n.pointed ∧ n.base.isNone then
      match rest with
      | [] => stop
      | d :: _ =>
        if d.isDigit then
          digits fuel { n with seen := '.' :: n.seen, pointed := true } rest (next p)
        else if d = '_' ∨ d = '.' ∨ d.isAlpha then stop
        else digits fuel { n with seen := '0' :: '.' :: n.seen, pointed := true } rest (next p)
    else if (c = 'e' ∨ c = 'E') ∧ !n.exponent ∧ n.base.isNone then
      match rest with
      | [] => stop
      | d :: more =>
        if d.isDigit then
          digits fuel { n with seen := 'e' :: n.seen, pointed := true, exponent := true } rest
            (next p)
        else if d = '+' ∨ d = '-' then
          digits fuel { n with seen := d :: 'e' :: n.seen, pointed := true, exponent := true }
            more (ahead p 2)
        else stop
    else
      match baseOf? c with
      | some base =>
        if n.seen = ['0'] ∧ n.base.isNone then
          digits fuel { n with seen := c :: n.seen, base := some base } rest (next p)
        else stop
      | none => stop

/-- Whether the characters are digits with at most one point between them and
an exponent behind. -/
def isDecimal (cs : List Char) : Bool :=
  let (_, rest) := cs.span Char.isDigit
  let rest :=
    match rest with
    | '.' :: rest => (rest.dropWhile Char.isDigit)
    | rest => rest
  match rest with
  | [] => true
  | 'e' :: rest =>
    let rest :=
      match rest with
      | '+' :: rest => rest
      | '-' :: rest => rest
      | rest => rest
    !rest.isEmpty && rest.all Char.isDigit
  | _ => false

/-- The largest integer literal. -/
def maxInt : Nat := 9223372036854775807

/-- The token of a decimal literal: an integer if it is one and fits. -/
def decimalToken (negative : Bool) (cs : List Char) : Token :=
  let text := String.ofList (if negative then '-' :: cs else cs)
  match readBase 10 cs with
  | some n =>
    if negative ∧ n ≤ maxInt + 1 then .int (Int64.ofInt (-(n : Int)))
    else if n ≤ maxInt then .int (Int64.ofNat n)
    else .float text
  | none => if isDecimal cs then .float text else .bad (.badNumber text)

/-- The token of a literal in another base: a word of 64 bits, read as a signed
one. -/
def baseToken (base : Nat) (cs : List Char) : Token :=
  match readBase base cs with
  | some n =>
    if n < Nat.pow 2 64 then .int (Int64.ofNat n) else .bad (.badNumber (String.ofList cs))
  | none => .bad (.badNumber (String.ofList cs))

/-- Reads a number behind its sign. The two characters in front of the digits
of another base leave no room for a sign. -/
def number (negative : Bool) (cs : List Char) (p : Place) : Token × Cursor :=
  let (n, cursor) := digits (cs.length + 1) ⟨[], none, false, false⟩ cs p
  let seen := n.seen.reverse
  match n.base with
  | some base => (baseToken base (seen.drop (if negative then 1 else 2)), cursor)
  | none => (decimalToken negative seen, cursor)

/-- Symbols with a meaning, longest first. -/
def symbols : List String :=
  ["**=", "<<=", ">>=", "..=",
    "+=", "-=", "*=", "/=", "%=", "|=", "&=", "^=", "**", "..", "=>", "==", "!=", "<=", ">=",
    "<<", ">>", "||", "&&", "::", "?.", "??", "?[", "()", "#\x7b",
    "\x7b", "\x7d", "(", ")", "[", "]", "+", "-", "*", "/", "%", ";", ".", "=", ":", "<", ">",
    "!", "|", "&", "^", ","]

/-- Symbols that are kept for later or belong to other languages, longest
first. -/
def strangeSymbols : List String :=
  ["===", "!==", "::<", "...", "++", "--", "->", "<-", "<|", "|>", ":=", ":;", "(*", "*)",
    "!.", "# \x7b", "#!", "~", "@", "$", "?", "#"]

/-- The complaint about a strange symbol that has an explanation. -/
def explanation? (symbol : String) : Option String :=
  if symbol = "===" then
    some "'===' is not a valid operator. This is not JavaScript! Should it be '=='?"
  else if symbol = "!==" then
    some "'!==' is not a valid operator. This is not JavaScript! Should it be '!='?"
  else if symbol = "->" then
    some "'->' is not a valid symbol. This is not C or C++!"
  else if symbol = "<-" then
    some "'<-' is not a valid symbol. This is not Go! Should it be '<='?"
  else if symbol = ":=" then
    some ("':=' is not a valid assignment operator. " ++
      "This is not Go or Pascal! Should it be simply '='?")
  else if symbol = ":;" then
    some "':;' is not a valid symbol. Should it be '::'?"
  else if symbol = "::<" then
    some "'::<>' is not a valid symbol. This is not Rust! Should it be '::'?"
  else if symbol = "(*" ∨ symbol = "*)" then
    some "'(* .. *)' is not a valid comment format. This is not Pascal! Should it be '/* .. */'?"
  else if symbol = "# \x7b" then
    some "'#' is not a valid symbol. Should it be '#\x7b'?"
  else none

/-- The longest symbol of a list that the text begins with. -/
def longest? (candidates : List String) (cs : List Char) : Option String :=
  candidates.find? fun s => s.toList.isPrefixOf cs

/-- Reads a symbol. -/
def symbol (cs : List Char) (p : Place) : Token × Cursor :=
  let take (text : String) (token : Token) : Token × Cursor :=
    (token, ⟨cs.drop text.length, ahead p text.length⟩)
  let notIn : Bool :=
    match cs with
    | '!' :: 'i' :: 'n' :: rest => !(rest.head?.any continuesName)
    | _ => false
  if notIn then take "!in" (.symbol "!in")
  else
    match longest? symbols cs, longest? strangeSymbols cs with
    | some s, some t => if s.length < t.length then take t (odd t) else take s (.symbol s)
    | some s, none => take s (.symbol s)
    | none, some t => take t (odd t)
    | none, none =>
      match cs with
      | c :: rest => (.bad (.unexpected (String.singleton c)), ⟨rest, next p⟩)
      | [] => (.eof, ⟨[], p⟩)
where
  /-- The token of a strange symbol. -/
  odd (t : String) : Token :=
    match explanation? t with
    | some why => .bad (.improper why)
    | none => .strange t

/-- Reads a name or keyword. -/
def word (cs : List Char) (p : Place) : Token × Cursor :=
  let (name, rest) := cs.span continuesName
  (Token.ofWord (String.ofList name), ⟨rest, ahead p name.length⟩)

/-- Reads a character literal: exactly one character between single quotes. -/
def character (limit : Nat) (rest : List Char) (p : Place) : Located × Cursor :=
  match rest with
  | '\'' :: _ => (⟨.bad (.badCharacter ""), p⟩, ⟨rest, next p⟩)
  | _ =>
    match quoted ⟨'\'', false, limit, p⟩ (rest.length + 1) [] 0 0 rest (next p) with
    | .error (e, cursor) => (⟨.bad e.complaint, e.place⟩, cursor)
    | .ok (text, cursor) =>
      match text.toList with
      | [c] => (⟨.char c, p⟩, cursor)
      | _ => (⟨.bad (.badCharacter text), p⟩, cursor)

/-- Whether the text that follows an opening backquote begins on the next
line; that line break is not part of the text. -/
def openText (rest : List Char) (p : Place) : Cursor :=
  match rest with
  | '\n' :: rest => ⟨rest, nextLine p⟩
  | '\r' :: '\n' :: rest => ⟨rest, nextLine p⟩
  | '\r' :: rest => ⟨rest, nextLine p⟩
  | rest => ⟨rest, next p⟩

/-- Cuts a text into tokens. `limit` bounds the bytes of a literal, and `signed`
tells whether a minus ahead may be the sign of a number. `holes` has a number
for each open hole: the braces open inside it. -/
def tokens (limit : Nat) : Nat → Bool → List Nat → List Char → Place → List Located
  | 0, _, _, _, p => [⟨.eof, p⟩]
  | _, _, _, [], p => [⟨.eof, p⟩]
  | fuel + 1, signed, holes, c :: rest, p =>
    let text (start : Place) (first : Option Place) (cursor : Cursor) (outer : List Nat) :
        List Located :=
      match stretch limit [] 0 cursor.rest cursor.place with
      | .closed s cursor =>
        ⟨.string s, first.getD start⟩ :: tokens limit fuel false outer cursor.rest cursor.place
      | .hole s cursor =>
        ⟨.openText s, first.getD start⟩ ::
          tokens limit fuel false (0 :: outer) cursor.rest cursor.place
      | .ended =>
        let place := (first.map fun p => firstPlace cursor.rest p).getD start
        [⟨.bad .openString, place⟩, ⟨.eof, p⟩]
      | .overlong => [⟨.bad (.stringTooLong limit), before cursor.place⟩, ⟨.eof, p⟩]
    let go (holes : List Nat) (found : Located) (cursor : Cursor) : List Located :=
      found :: tokens limit fuel found.token.admitsSign holes cursor.rest cursor.place
    if isBlank c then tokens limit fuel signed holes rest (past c p)
    else if c = '/' ∧ rest.head? = some '/' then
      let cursor := skipLine rest (next p)
      tokens limit fuel signed holes cursor.rest cursor.place
    else if c = '/' ∧ rest.head? = some '*' then
      let cursor := skipBlock 1 (rest.drop 1) (ahead p 2)
      tokens limit fuel signed holes cursor.rest cursor.place
    else if c = '"' then
      match quoted ⟨'"', true, limit, p⟩ (rest.length + 1) [] 0 0 rest (next p) with
      | .ok (s, cursor) => go holes ⟨.string s, p⟩ cursor
      | .error (e, cursor) => go holes ⟨.bad e.complaint, e.place⟩ cursor
    else if c = '\'' then
      let (found, cursor) := character limit rest p
      go holes found cursor
    else if c = '\x60' then text p none (openText rest p) holes
    else if c = '#' ∧ rest.head?.any (fun d => d == '"' || d == '#') then
      let (token, cursor) := raw limit (c :: rest) p
      go holes ⟨token, p⟩ cursor
    else if c.isDigit then
      let (token, cursor) := number false (c :: rest) p
      go holes ⟨token, p⟩ cursor
    else if c = '-' ∧ signed ∧ rest.head?.any Char.isDigit then
      let (token, cursor) := number true rest (next p)
      go holes ⟨token, p⟩ cursor
    else if startsName c then
      let (token, cursor) := word (c :: rest) p
      go holes ⟨token, p⟩ cursor
    else
      let (token, cursor) := symbol (c :: rest) p
      match holes with
      | [] => go holes ⟨token, p⟩ cursor
      | depth :: outer =>
        if token = .symbol "\x7b" ∨ token = .symbol "#\x7b" then
          go ((depth + 1) :: outer) ⟨token, p⟩ cursor
        else if token = .symbol "\x7d" then
          if depth ≤ 1 then
            ⟨token, p⟩ :: text p (some cursor.place) cursor outer
          else go ((depth - 1) :: outer) ⟨token, p⟩ cursor
        else go holes ⟨token, p⟩ cursor

/-- The tokens of a script. Every step takes a character. -/
def ofText (limit : Nat) (text : String) : List Located :=
  let cs := text.toList
  tokens limit (cs.length + 1) true [] cs ⟨1, 1⟩

end MazeRobot.Script.Lexer

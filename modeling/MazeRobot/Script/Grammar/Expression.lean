import MazeRobot.Script.Decimal
import MazeRobot.Script.Grammar.Checks

/-!
# Expressions

An expression is operands joined by operators. Of two operators the one that
binds more strongly takes its operands first, and equals go from left to right;
only powers go from right to left. An operand is a literal, a name, a closure,
a call or a statement with a value, followed by indexes, properties and method
calls; parentheses around a chain do not keep it from going on.
-/

namespace MazeRobot.Script.Grammar

open Reading

/-- How strongly a binary operator binds; zero for everything else. -/
def strength : Token → Nat
  | .symbol s =>
    if ["||", "|", "^"].contains s then 30
    else if ["&&", "&"].contains s then 60
    else if ["==", "!="].contains s then 90
    else if s = "!in" then 110
    else if ["<", "<=", ">", ">="].contains s then 130
    else if s = "??" then 135
    else if ["..", "..="].contains s then 140
    else if ["+", "-"].contains s then 150
    else if ["*", "/", "%"].contains s then 180
    else if s = "**" then 190
    else if ["<<", ">>"].contains s then 210
    else 0
  | .keyword "in" => 110
  | _ => 0

/-- The strength of the operator ahead. A strange symbol in its place is an
unknown operator. -/
def strengthAhead (c : Context) : Reading Nat := do
  let found ← peek
  match found.token with
  | .strange s => fail (.unknownOperator s) found.place
  | .symbol "|" => pure (if c.barEnds then 0 else strength found.token)
  | t => pure (strength t)

/-- The alternatives that an expression is one of. -/
def alternatives : Expression → List Expression
  | .orElse all _ => all
  | e => [e]

/-- The expression of a binary operator. Whether something is contained is asked
of the container. -/
def combine (symbol : String) (left right : Expression) (p : Place) : Reading Expression := do
  if symbol = "||" then
    let left ← wantBool left
    let right ← wantBool right
    pure (.either [left, right] p)
  else if symbol = "&&" then
    let left ← wantBool left
    let right ← wantBool right
    pure (.both [left, right] p)
  else if symbol = "??" then pure (.orElse (alternatives left ++ alternatives right) p)
  else if symbol = "in" then pure (.operator "in" [right, left] p)
  else if symbol = "!in" then pure (.operator "!" [.operator "in" [right, left] p] p)
  else pure (.operator symbol [left, right] p)

/-- Whether a range may end without a bound before the token. -/
def endsRange : Token → Bool
  | .symbol s => ["]", ")", "\x7d", ",", ";", "=>"].contains s
  | _ => false

/-- Reads the operand behind an operator. A range may have none, for which the unit stands;
instead of a value for the unit there may be a way out. -/
def rightOperand (read : Recursion) (operator : Token) (c : Context) : Reading Expression := do
  let found ← peek
  if (operator = .symbol ".." ∨ operator = .symbol "..=") ∧ endsRange found.token then
    pure (.literal .unit found.place)
  else
    match operator, found.token with
    | .symbol "??", .keyword word =>
      if ["return", "throw", "break", "continue"].contains word then
        let exit ← read .statement c
        pure (.block [exit] exit.place)
      else read .operand c
    | _, _ => read .operand c

/-- Reads operators and operands behind a first operand, as long as they bind
more strongly than `least`. -/
def operation (read : Recursion) (least : Nat) (left : Expression) (c : Context) :
    Reading Expression :=
  iterate (left, c.moved left.place) fun (left, c) => do
    let here ← strengthAhead c
    let rightFirst := here == 190
    if here < least || (here == least && !rightFirst) then pure (.inr left)
    else
      let op ← next
      let right ← rightOperand read op.token c
      let ahead ← strengthAhead c
      let right ←
        if here < ahead || (here == ahead && rightFirst) then
          read (.operation here right) (← c.deeper)
        else pure right
      let c ← c.deeper
      let whole ← combine op.token.spelling left right op.place
      pure (.inl (whole, c.moved op.place))

/-- Reads an expression. -/
def expression (read : Recursion) (c : Context) : Reading Expression := do
  let c ← (c.moved (← peek).place).deeper
  let left ← read .operand c
  read (.operation 1 left) c

/-- Puts a minus before an operand. The least integer becomes a number with a
fraction. -/
def negate (e : Expression) (p : Place) : Expression :=
  match e with
  | .literal (.int n) _ =>
    if n = Int64.minValue then .literal (.float (-(Float.ofInt n.toInt))) p
    else .literal (.int (-n)) p
  | .literal (.float x) _ => .literal (.float (-x)) p
  | e => .operator "-" [e] p

/-- The complaint about a call whose arguments do not end. -/
def noArgumentsEnd (function : String) : Complaint :=
  .missing ")" s!"to close the arguments list of this function call '{function}'"

/-- Reads the arguments of a call behind its opening parenthesis. -/
def arguments (read : Recursion) (function : String) (c : Context) : Reading (List Expression) := do
  if ← takes (.symbol ")") then pure []
  else
    let found ← peek
    match found.token with
    | .eof | .bad _ =>
      reject found (noArgumentsEnd function)
    | _ => pure ()
    iterate [] fun args => do
      let args ←
        if (← peek).token = .symbol ")" then pure args
        else pure ((← read .expression c) :: args)
      let found ← peek
      match found.token with
      | .symbol ")" =>
        let _ ← next
        pure (.inr args.reverse)
      | .symbol "," =>
        let _ ← next
        pure (.inl args)
      | .eof =>
        reject found (noArgumentsEnd function)
      | _ =>
        reject found (.missing "," s!"to separate the arguments to function call '{function}'")

/-- Whether the token ahead opens the arguments of a call, which it then
takes. -/
def arguments? (read : Recursion) (function : String) (p : Place) (c : Context) :
    Reading (Option (List Expression)) := do
  match (← peek).token with
  | .symbol "()" =>
    let _ ← next
    pure (some [])
  | .symbol "(" =>
    let _ ← next
    let c ← (c.moved p).deeper
    pure (some (← arguments read function c))
  | _ => pure none

/-- Reads the mark and the arguments of a call that sees the variables of its
caller. -/
def scopedArguments (read : Recursion) (function : String) (p : Place) (c : Context) :
    Reading (List Expression) := do
  let _ ← next
  match ← arguments? read function p c with
  | some args => pure args
  | none =>
    fail (.missing "(" "to start arguments list of function call") (← peek).place

/-- Reads what follows a path that begins at `start`: more names, or the arguments of a
call. -/
def behindPath (read : Recursion) (modules : List String) (name : String) (start place : Place)
    (c : Context) : Reading Expression := do
  let (modules, name, place) ←
    iterate (modules.reverse, name, place) fun (modules, name, place) => do
      if ← takes (.symbol "::") then
        let (inner, place) ← variableName
        pure (.inl (name :: modules, inner, place))
      else pure (.inr (modules.reverse, name, place))
  match ← arguments? read name place c with
  | some args => pure (.pathCall modules name args start place)
  | none =>
    let mark ← peek
    if mark.token = .symbol "!" then
      let _ ← next
      match (← peek).token with
      | .symbol "(" | .symbol "()" => fail (.unexpected "!") mark.place
      | _ => fail (.improper "'!' cannot be used to call module functions") mark.place
    else pure (.path modules name start place)

/-- Reads what follows a name, also one in parentheses: the arguments of a call or more
names of a path. Behind anything else nothing is read. -/
def behindName (read : Recursion) (e : Expression) (c : Context) : Reading Expression := do
  match e with
  | .var name _ p =>
    match ← arguments? read name p c with
    | some args => pure (.call name args false p)
    | none =>
      match (← peek).token with
      | .symbol "!" => pure (.call name (← scopedArguments read name p c) true p)
      | .symbol "::" => behindPath read [] name p p c
      | _ => pure e
  | .path modules name start place => behindPath read modules name start place c
  | e => pure e

/-- Whether a name before the token is no variable. -/
def followsName : Token → Bool
  | .symbol s => ["(", "()", "!", "::"].contains s
  | _ => false

/-- Reads what begins with a name: a variable, a call or a path. -/
def named (read : Recursion) (name : String) (p : Place) (c : Context) : Reading Expression := do
  if followsName (← peek).token then behindName read (.var name .unseen p) c
  else
    let sighted ← sight name
    use name p
    pure (.var name sighted p)

/-- Reads what begins with a reserved word. -/
def reservedName (read : Recursion) (word : String) (p : Place) (c : Context) :
    Reading Expression := do
  let refuse : Reading Expression :=
    if word = "this" then
      if c.inFunction then pure (.self p)
      else fail (.improper "'this' can only be used in functions") p
    else fail (.reservedWord word) p
  if Token.callableWords.contains word then
    match ← arguments? read word p c with
    | some args => pure (.call word args false p)
    | none =>
      if (← peek).token = .symbol "!" then
        pure (.call word (← scopedArguments read word p c) true p)
      else refuse
  else refuse

/-- Reads an array literal. -/
def array (read : Recursion) (c : Context) : Reading Expression := do
  let (p, c) ← c.entered
  let why := "to end this array literal"
  iterate ([], 0) fun (items, count) => do
    let found ← peek
    if c.maxItems != 0 && c.maxItems ≤ count then
      fail (.literalTooLarge "Size of array literal" c.maxItems) found.place
    match found.token with
    | .symbol "]" =>
      let _ ← next
      pure (.inr (.array items.reverse p))
    | .eof => fail (.missing "]" why) found.place
    | _ =>
      let item ← read .expression (← c.deeper)
      let found ← peek
      match found.token with
      | .symbol "," => let _ ← next
      | .symbol "]" => pure ()
      | .eof => fail (.missing "]" why) found.place
      | _ => reject found (.missing "," "to separate the items of this array literal")
      pure (.inl (item :: items, count + 1))

/-- Reads the name of an entry of a map literal. -/
def entryName (entries : List (String × Expression)) (c : Context) : Reading String := do
  let found ← next
  let name (s : String) : Reading String :=
    if entries.any (·.1 == s) then fail (.duplicateProperty s) found.place else pure s
  match found.token with
  | .name s => if c.asData then fail .propertyExpected found.place else name s
  | .string s => name s
  | .openText _ => fail .propertyExpected found.place
  | .reserved word => fail (.reservedWord word) found.place
  | .eof => fail (.missing "\x7d" "to end this object map literal") found.place
  | _ =>
    if entries.isEmpty then reject found (.missing "\x7d" "to end this object map literal")
    else reject found .propertyExpected

/-- Reads a map literal. -/
def map (read : Recursion) (c : Context) : Reading Expression := do
  let (p, c) ← c.entered
  let why := "to end this object map literal"
  iterate [] fun entries => do
    let found ← peek
    match found.token with
    | .symbol "\x7d" =>
      let _ ← next
      pure (.inr (.map entries.reverse p))
    | .eof => fail (.missing "\x7d" why) found.place
    | _ =>
      let name ← entryName entries c
      let _ ← expect (.symbol ":") s!"to follow the property '{name}' in this object map literal"
      if c.maxItems != 0 && c.maxItems ≤ entries.length then
        fail (.literalTooLarge "Number of properties in object map literal" c.maxItems)
          (← peek).place
      let value ← read .expression (← c.deeper)
      let found ← peek
      match found.token with
      | .symbol "," => let _ ← next
      | .symbol "\x7d" => pure ()
      | .name _ =>
        fail (.missing "," "to separate the items of this object map literal") found.place
      | _ => reject found (.missing "\x7d" why)
      pure (.inl ((name, value) :: entries))

/-- Reads a text with holes. -/
def template (read : Recursion) (first : String) (c : Context) : Reading Expression := do
  let (p, c) ← c.entered
  let addText (s : String) (at_ : Place) (parts : List Expression) : List Expression :=
    if s = "" then parts else .literal (.string s) at_ :: parts
  iterate (addText first p []) fun parts => do
    let hole ← read .block c
    let parts := .block hole.statements hole.brace :: parts
    let found ← next
    match found.token with
    | .string s => pure (.inr (.template (addText s found.place parts).reverse p))
    | .openText s => pure (.inl (addText s found.place parts))
    | _ => reject found .openString

/-- Refuses a token in the place of a parameter; `c` is the complaint about one that ends
nothing and begins nothing. -/
def noParameter {α : Type} (found : Located) (c : Complaint) : Reading α :=
  match found.token with
  | .reserved word => fail (.reservedWord word) found.place
  | .strange s => fail (.reservedSymbol s) found.place
  | .keyword word => fail (if word = "switch" then c else .variableExpected) found.place
  | _ => reject found c

/-- Reads the parameters of a closure behind its first bar. -/
def closureParameters : Reading (List String) :=
  iterate [] fun parameters => do
    let found ← next
    match found.token with
    | .symbol "|" => pure (.inr parameters.reverse)
    | .name s =>
      if parameters.contains s then fail (.duplicateParameter "" s) found.place
      declare s false
      let parameters := s :: parameters
      let found ← next
      match found.token with
      | .symbol "|" => pure (.inr parameters.reverse)
      | .symbol "," => pure (.inl parameters)
      | _ => reject found (.missing "," "to separate the parameters of anonymous function")
    | _ =>
      noParameter found
        (.missing "|" "to close the parameters list of anonymous function or closure")

/-- The statements of a body that is read as one statement. -/
def statements : Statement → List Statement
  | .block body _ => body
  | .skip _ => []
  | s => [s]

/-- Reads a closure. It sees the variables around it and takes those it uses
along; without any it is a function like any other. -/
def closure (read : Recursion) (c : Context) : Reading Expression := do
  let first ← peek
  let (_, inner) ← { c with
    atTop := false, inFunction := true, inLoop := false, barEnds := false : Context }.entered
  let ((parameters, body), taken) ← apart do
    let parameters ←
      if first.token = .symbol "||" then pure []
      else closureParameters
    pure (parameters, ← read .statement inner)
  let captured := taken.reverse
  let name := s!"anon${(← get).closures}"
  let function : Function := {
    thisType := none
    name := name
    parameters := captured.map (·.1) ++ parameters
    body := statements body
    isClosure := true
    isPrivate := false }
  modify fun r => { r with
    functions := function :: r.functions
    closures := r.closures + 1 }
  let carried ← captured.mapM fun (taken, place) => do
    let sighted ← sight taken
    use taken place
    pure (Expression.var taken sighted place)
  let arity := function.parameters.length
  if carried.isEmpty then pure (.literal (.function name (some arity) []) first.place)
  else pure (.closure name arity carried first.place)

/-- A statement where an expression is wanted. -/
def ofStatement (s : Statement) : Expression :=
  match s with
  | .block body p => .block body p
  | s => .block [s] s.place

/-- Reads an operand without what follows it. A range without a first bound begins with
zero. -/
def root (read : Recursion) (c : Context) : Reading Expression := do
  let found ← peek
  let p := found.place
  let c := c.moved p
  let taken (v : Value) : Reading Expression := do
    let _ ← next
    pure (.literal v p)
  match found.token with
  | .eof => fail .incomplete p
  | .bad why => do
    let _ ← next
    fail why p
  | .int n => taken (.int n)
  | .float digits => taken (.float (Decimal.read digits))
  | .char ch => taken (.char ch)
  | .string s => taken (.string s)
  | .openText s => template read s c
  | .name name => do let _ ← next; named read name p c
  | .reserved word => do let _ ← next; reservedName read word p c
  | .strange s => fail (.reservedSymbol s) p
  | .keyword word =>
    if word = "true" then taken (.bool true)
    else if word = "false" then taken (.bool false)
    else if ["if", "while", "loop", "do", "for", "switch"].contains word then
      pure (ofStatement (← read .statement c))
    else fail (.unexpected word) p
  | .symbol s =>
    if s = "\x7b" then
      let body ← read .block (← c.deeper)
      pure (.block body.statements body.brace)
    else if s = "()" then taken .unit
    else if s = ".." ∨ s = "..=" then pure (.literal (.int 0) p)
    else if s = "(" then
      let (_, inside) ← c.entered
      let inner ← read .expression inside
      let _ ← expect (.symbol ")") "for a matching ( in this expression"
      behindName read inner c
    else if s = "[" then array read c
    else if s = "#\x7b" then map read c
    else if s = "||" ∨ (s = "|" ∧ !c.barEnds) then closure read c
    else fail (.unexpected s) p

/-- Reads the property or method behind a point. -/
def member (read : Recursion) (isOptional : Bool) (mark : Place) (c : Context) :
    Reading Link := do
  let found ← peek
  let name ←
    match found.token with
    | .name name => pure name
    | .reserved word =>
      if Token.methodWords.contains word then pure word
      else fail (.reservedWord word) found.place
    | .strange s => fail (.reservedSymbol s) found.place
    | _ => fail .propertyExpected found.place
  let _ ← next
  match ← arguments? read name found.place c with
  | some args => pure (.method name args isOptional mark found.place)
  | none =>
    match (← peek).token, found.token with
    | .symbol "!", _ =>
      let _ ← scopedArguments read name found.place c
      fail .scopedMethod found.place
    | _, .reserved word => fail (.reservedWord word) found.place
    | .symbol "::", _ => fail (.improper "Invalid symbol encountered: '::'") (← peek).place
    | _, _ => pure (.property name isOptional mark found.place)

/-- A run of indexes, last one first, as links. In a run every index but the
last is optional if the one behind it is. -/
def indexRun : List (Expression × Bool × Place) → List Link
  | [] => []
  | (at_, isOptional, mark) :: rest => .index at_ isOptional mark :: go isOptional rest
where
  /-- The indexes before one that is optional or not. -/
  go (following : Bool) : List (Expression × Bool × Place) → List Link
    | [] => []
    | (at_, isOptional, mark) :: rest => .index at_ following mark :: go isOptional rest

/-- Whether a link is an index. -/
def isIndex : Link → Bool
  | .index .. => true
  | _ => false

/-- An index that is left out on no account. -/
def plain : Link → Link
  | .index at_ _ mark => .index at_ false mark
  | link => link

/-- Links, last one first, with a point behind them. No index right before a point is left
out. -/
def beforePoint (links : List Link) : List Link :=
  let run := links.takeWhile isIndex
  run.map plain ++ links.drop run.length

/-- Reads indexes that follow one another, each one level deeper than the one
before. The first one must suit `checked`. Gives them last one first. -/
def indexes (read : Recursion) (checked : Option Expression) (c : Context) :
    Reading (List Link) := do
  let run ← iterate (c, ([] : List (Expression × Bool × Place))) fun (c, run) => do
    let found ← peek
    if found.token = .symbol "[" ∨ found.token = .symbol "?[" then
      let _ ← next
      let c ← (c.moved found.place).deeper
      let at_ ← read .expression (← c.deeper)
      match checked with
      | some root => if run.isEmpty then wantIndex root at_
      | none => pure ()
      let closing ← peek
      if closing.token ≠ .symbol "]" then
        reject closing (.missing "]" "for a matching [ in this index expression")
      let _ ← next
      pure (.inl (c, (at_, found.token == .symbol "?[", found.place) :: run))
    else pure (.inr run)
  pure (indexRun run)

/-- The root and the links of an expression, last link first. -/
def unchained : Expression → Expression × List Link
  | .chain root links _ => (root, links.reverse)
  | e => (e, [])

/-- A root with links, the last of which comes first. -/
def chained (root : Expression) (links : List Link) : Expression :=
  match links.reverse with
  | [] => root
  | first :: rest => .chain root (first :: rest) first.mark

/-- Reads an operand and the links that follow it. -/
def operandWithLinks (read : Recursion) (c : Context) : Reading Expression := do
  let (first, links) := unchained (← root read c)
  let links ← iterate (c, links) fun (c, links) => do
    let found ← peek
    let step (isOptional : Bool) : Reading ((Context × List Link) ⊕ List Link) := do
      let _ ← next
      let c ← (c.moved found.place).deeper
      let link ← member read isOptional found.place c
      pure (.inl (c, link :: beforePoint links))
    match found.token with
    | .symbol "." => step false
    | .symbol "?." => step true
    | .symbol "[" | .symbol "?[" =>
      let run ← indexes read (if links.isEmpty then some first else none) c
      pure (.inl (c, run ++ links))
    | _ => pure (.inr links)
  pure (chained first links)

/-- Reads an operand with the unary operators before it. -/
def operand (read : Recursion) (c : Context) : Reading Expression := do
  let found ← peek
  let c := c.moved found.place
  match found.token with
  | .symbol "-" =>
    let _ ← next
    pure (negate (← read .operand (← c.deeper)) found.place)
  | .symbol "+" =>
    let _ ← next
    let inner ← read .operand (← c.deeper)
    match inner with
    | .literal (.int _) _ | .literal (.float _) _ => pure inner
    | _ => pure (.operator "+" [inner] found.place)
  | .symbol "!" =>
    let _ ← next
    let inner ← read .operand (← c.deeper)
    pure (.operator "!" [inner] found.place)
  | _ => operandWithLinks read c

end MazeRobot.Script.Grammar

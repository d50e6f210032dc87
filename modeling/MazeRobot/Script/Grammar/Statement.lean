import MazeRobot.Script.Grammar.Expression

/-!
# Statements

Statements are told apart by their first token. Those that end with a brace
need no semicolon behind them, and neither does the last one of a block.
Functions may be defined at the top only.
-/

namespace MazeRobot.Script.Grammar

open Reading

/-- Whether a statement ends with its brace. -/
def endsItself : Statement → Bool
  | .block .. | .cond .. | .switch .. | .loop .. | .each .. | .attempt .. => true
  | _ => false

/-- Reads statements up to the token that closes them, which is taken. -/
def sequence (read : Recursion) (closer : Token) (c : Context) : Reading (List Statement) :=
  iterate [] fun body => do
    if ← takes closer then pure (.inr body.reverse)
    else
      let first ← peek
      if first.token = .eof then
        fail (.missing closer.spelling "to terminate this block") first.place
      match ← read .statement c with
      | .skip _ => pure (.inl body)
      | s =>
        let body := s :: body
        if ← takes closer then pure (.inr body.reverse)
        else if ← takes (.symbol ";") then pure (.inl body)
        else if endsItself s then pure (.inl body)
        else reject (← peek) (.missing ";" "to terminate this statement")

/-- Reads statements in braces. -/
def block (read : Recursion) (c : Context) : Reading Body := do
  let p ← expect (.symbol "\x7b") "to start a statement block"
  let c ← { c with atTop := false }.deeper
  pure ⟨← inBlock (sequence read (.symbol "\x7d") c), p⟩

/-- Reads a condition. -/
def guard (read : Recursion) (c : Context) : Reading Expression := do
  noBlock
  let e ← wantBool (← read .expression c)
  noAssignment
  pure e

/-- Reads a choice between two blocks; behind `else` there may be another
choice. -/
def cond (read : Recursion) (c : Context) : Reading Statement := do
  let (p, c) ← c.entered
  let condition ← guard read c
  let yes ← read .block c
  if ← takes (.keyword "else") then
    if (← peek).token = .keyword "if" then
      pure (.cond condition yes.statements [← read .choice c] p)
    else pure (.cond condition yes.statements (← read .block c).statements p)
  else pure (.cond condition yes.statements [] p)

/-- Reads the labels of a case, whose kinds are not looked at yet, and its
condition. -/
def labels (read : Recursion) (c : Context) : Reading (List Expression × Expression) := do
  let p := (← peek).place
  let all ← iterate [] fun found => do
    let label ← tryCatch (read .expression { c with barEnds := true }) fun e =>
      fail (.expressionExpected "literal") e.place
    let found := label :: found
    if ← takes (.symbol "|") then pure (.inl found) else pure (.inr found.reverse)
  let condition ←
    if ← takes (.keyword "if") then guard read c else pure (.literal (.bool true) p)
  pure (all, condition)

/-- Whether a value is a number. -/
def isNumber : Value → Bool
  | .int _ | .float _ => true
  | _ => false

/-- Takes the values of labels. Numbers cannot stand behind a range with integers. -/
def labelValues (afterRange : Bool) : List Expression → Reading (List Value × Bool)
  | [] => pure ([], afterRange)
  | e :: rest => do
    match e.label? with
    | none => fail (.expressionExpected "a literal") e.start
    | some v =>
      if afterRange && isNumber v then fail .numberAfterRange e.start
      let (values, ranged) ← labelValues (afterRange || v.isFullRange) rest
      pure (v :: values, ranged)

/-- What has been read of a choice among cases. -/
structure Cases where
  /-- The cases, last one first. -/
  cases : List Case
  /-- What is done for all other values, and where that stands. -/
  otherwise : Option (Expression × Place)
  /-- Whether there was a range. -/
  ranged : Bool

/-- Reads a choice among cases. -/
def switch (read : Recursion) (c : Context) : Reading Statement := do
  let (p, c) ← c.entered
  let subject ← read .expression c
  let _ ← expect (.symbol "\x7b") "to start a switch block"
  iterate (Cases.mk [] none false) fun found => do
    let first ← peek
    match first.token, found.otherwise with
    | .symbol "\x7d", _ =>
      let _ ← next
      pure (.inr (.switch subject found.cases.reverse (found.otherwise.map (·.1)) p))
    | .eof, _ => fail (.missing "\x7d" "to end this switch block") first.place
    | _, some (_, place) => fail .defaultNotLast place
    | _, none =>
      let isDefault := first.token == .symbol "_"
      let (all, condition) ←
        if isDefault then
          let _ ← next
          let ahead ← peek
          if ahead.token = .keyword "if" then fail .conditionOnDefault ahead.place
          pure ([], .literal (.bool true) first.place)
        else labels read c
      let _ ← expect (.symbol "=>") "in this switch case"
      let body ← leavingTraces (read .statement c)
      let (values, ranged) ← labelValues found.ranged all
      let ahead ← peek
      match ahead.token with
      | .symbol "," => let _ ← next
      | .symbol "\x7d" => pure ()
      | .eof => fail (.missing ")" "to end this switch block") ahead.place
      | .bad why => fail why ahead.place
      | _ =>
        if !endsItself body then
          fail (.missing "," "to separate the items in this switch block") ahead.place
      let action := ofStatement body
      if isDefault then
        pure (.inl { found with otherwise := some (action, first.place) })
      else
        pure (.inl { found with
          cases := .mk values condition action :: found.cases, ranged := ranged })

/-- Reads a loop with its guard before the body, or without one. -/
def whileLoop (read : Recursion) (c : Context) : Reading Statement := do
  let first ← peek
  let (p, c) ← c.entered
  let condition ←
    if first.token = .keyword "while" then pure (some (← guard read c)) else pure none
  let body ← read .block c.loop
  pure (.loop condition body.statements body.brace p)

/-- Reads a loop with its guard behind the body. -/
def doLoop (read : Recursion) (c : Context) : Reading Statement := do
  let (p, c) ← c.entered
  let body ← read .block c.loop
  let goOn ←
    if ← takes (.keyword "until") then pure false
    else
      let _ ← demand (.keyword "while") "for the do statement"
      pure true
  pure (.doLoop body.statements (← guard read c) goOn p)

/-- Reads a loop over the items of a value. -/
def forLoop (read : Recursion) (c : Context) : Reading Statement := do
  let (p, c) ← c.entered
  let (item, counter) ←
    if ← takes (.symbol "(") then
      let (item, _) ← variableName
      let _ ← demand (.symbol ",") "after the iteration variable name"
      let (counter, place) ← variableName
      if counter = item then fail (.duplicateVariable counter) place
      let _ ← demand (.symbol ")") "to close the iteration variable"
      pure (item, some counter)
    else
      let (item, _) ← variableName
      pure (item, none)
  let _ ← expect (.keyword "in") "after the iteration variable"
  noBlock
  let source ← wantIterable (← read .expression c)
  let body ← keepingScope do
    for name in counter do
      declare name false
    declare item false
    read .block c.loop
  pure (.each item counter source body.statements body.brace p)

/-- Reads a new variable or constant. -/
def declaration (read : Recursion) (constant : Bool) (c : Context) : Reading Statement := do
  let p := (← next).place
  let (name, place) ← variableName
  let value ←
    if ← takes (.symbol "=") then read .expression (← (c.moved p).deeper)
    else pure (.literal .unit place)
  let position ← redeclare name constant
  pure (.declare name value constant position p)

/-- Reads a request for a module, under a name or not. -/
def load (read : Recursion) (c : Context) : Reading Statement := do
  let (p, c) ← c.entered
  let source ← read .expression c
  if ← takes (.keyword "as") then
    let _ ← variableName
  pure (.load source p)

/-- Reads what the top level shows to others, which nobody here sees. -/
def shown (read : Recursion) (c : Context) : Reading Statement := do
  let (p, c) ← c.entered
  let found ← peek
  match found.token with
  | .keyword "let" => declaration read false (c.moved found.place)
  | .keyword "const" => declaration read true (c.moved found.place)
  | _ =>
    let (name, place) ← variableName
    if ← takes (.keyword "as") then
      let _ ← variableName
    pure (.publish name place p)

/-- Reads a block that may fail and its handler. -/
def attempt (read : Recursion) (c : Context) : Reading Statement := do
  let (p, c) ← c.entered
  let body ← read .block c
  let _ ← demand (.keyword "catch") "for the 'try' statement"
  keepingScope do
    let name ←
      if ← takes (.symbol "(") then
        let (name, _) ← variableName
        let _ ← demand (.symbol ")") "to enclose the catch variable"
        declare name false
        pure (some name)
      else pure none
    let handler ← read .block c
    pure (.attempt body.statements name handler.statements p)

/-- Reads the value that may stand behind a way out. What cannot be read as a value is none,
and what is left of it comes next. -/
def exitValue (read : Recursion) (c : Context) : Reading (Option Expression) := do
  match (← peek).token with
  | .eof | .symbol "\x7d" | .symbol ";" => pure none
  | _ =>
    let c ← c.deeper
    leavingTraces (ifPossible (read .expression c))

/-- Reads the parameters of a function behind its name. -/
def parameters (function : String) : Reading (List String) := do
  let found ← peek
  match found.token with
  | .symbol "()" =>
    let _ ← next
    pure []
  | .symbol "(" =>
    let _ ← next
    let why := s!"to close the parameters list of function '{function}'"
    iterate [] fun names => do
      let found ← next
      match found.token with
      | .symbol ")" => pure (.inr names.reverse)
      | .name s =>
        if names.contains s then fail (.duplicateParameter function s) found.place
        declare s false
        let names := s :: names
        let found ← next
        match found.token with
        | .symbol ")" => pure (.inr names.reverse)
        | .symbol "," => pure (.inl names)
        | _ => reject found (.missing "," s!"to separate the parameters of function '{function}'")
      | _ => noParameter found (.missing ")" why)
  | _ => fail (.parametersExpected function) found.place

/-- The name of a type, which may have a short one. -/
def typeOf (name : String) : String :=
  if name = "int" then "i64" else if name = "float" then "f64" else name

/-- Reads the type whose values a function is a method of, if there is one. -/
def thisType : Reading (Option String) := do
  let found ← peek
  let behind : Located :=
    match (← get).tokens with
    | _ :: behind :: _ => behind
    | _ => found
  let taken (name : String) : Reading (Option String) := do
    let _ ← next
    let _ ← next
    pure (some (typeOf name))
  match found.token with
  | .string name =>
    if behind.token = .symbol "." then taken name
    else fail (.missing "." "after the type name for 'this'") behind.place
  | .name name => if behind.token = .symbol "." then taken name else pure none
  | _ => pure none

/-- Reads a function. It sees nothing of what is around it. -/
def function (read : Recursion) (c : Context) : Reading Statement := do
  let isPrivate ← takes (.keyword "private")
  let p ← demand (.keyword "fn") "following 'private'"
  let inner : Context := { c with
    level := 0, place := p, atTop := false, inFunction := true, inLoop := false
    barEnds := false }
  let (this, _) ← apart do
    let kind ← thisType
    let found ← next
    let name ←
      match found.token with
      | .name name => pure name
      | .reserved word => fail (.reservedWord word) found.place
      | .strange s => fail (.reservedSymbol s) found.place
      | _ => fail .functionNameExpected found.place
    let names ← parameters name
    let start ← peek
    if start.token ≠ .symbol "\x7b" then fail (.bodyExpected name) start.place
    let body ← read .block (← inner.deeper)
    pure (Function.mk kind name names body.statements false isPrivate)
  let isTaken := (← get).functions.any fun f =>
    f.thisType == this.thisType && f.name == this.name &&
      f.parameters.length == this.parameters.length
  if isTaken then fail (.duplicateFunction this.name this.parameters.length) p
  modify fun r => { r with functions := this :: r.functions }
  pure (.skip p)

/-- Reads an expression or an assignment. -/
def assignment (read : Recursion) (c : Context) : Reading Statement := do
  let target ← read .expression c
  let found ← peek
  match found.token with
  | .symbol s =>
    if s = "=" ∨ assignments.contains s then
      let _ ← next
      let value ← read .expression (c.moved found.place)
      wantAssignable target (s = "=") found.place
      let through := if s = "=" then none else some (String.ofList (s.toList.dropLast))
      pure (.assign target through value found.place)
    else pure (.value target)
  | _ => pure (.value target)

/-- Reads a statement. -/
def statement (read : Recursion) (c : Context) : Reading Statement := do
  let found ← peek
  let p := found.place
  let c := c.moved p
  match found.token with
  | .eof => pure (.skip p)
  | .symbol ";" =>
    let _ ← next
    pure (.skip p)
  | .symbol "\x7b" =>
    let body ← read .block (← c.deeper)
    pure (.block body.statements body.brace)
  | .keyword word =>
    if word = "fn" ∨ word = "private" then
      if c.atTop then function read c
      else
        if word = "private" then
          let _ ← next
          let _ ← demand (.keyword "fn") "following 'private'"
        fail .nestedFunction p
    else if word = "if" then cond read (← c.deeper)
    else if word = "switch" then switch read (← c.deeper)
    else if word = "while" ∨ word = "loop" then whileLoop read (← c.deeper)
    else if word = "do" then doLoop read (← c.deeper)
    else if word = "for" then forLoop read (← c.deeper)
    else if word = "continue" ∨ word = "break" then
      if !c.inLoop then fail .noLoop p
      let _ ← next
      if word = "continue" then pure (.next p)
      else pure (.leave (← exitValue read c) p)
    else if word = "return" then
      let _ ← next
      pure (.return (← exitValue read c) p)
    else if word = "throw" then
      let _ ← next
      pure (.throw (← exitValue read c) p)
    else if word = "try" then attempt read (← c.deeper)
    else if word = "let" then declaration read false (← c.deeper)
    else if word = "const" then declaration read true (← c.deeper)
    else if word = "import" then load read (← c.deeper)
    else if word = "export" then
      if c.atTop then shown read (← c.deeper) else fail .nestedExport p
    else assignment read (← c.deeper)
  | _ => assignment read (← c.deeper)

end MazeRobot.Script.Grammar

import MazeRobot.Script.Simplification.Expression

/-!
# Simplifying statements

A choice whose outcome is known is replaced by that outcome. A block loses the
statements that nothing depends on: those behind a way out, and those that only
compute a value that nobody sees. A block is simplified until nothing changes
any more.
-/

namespace MazeRobot.Script.Simplification

/-- The operators that an assignment can go through. -/
def assigning : List String := ["+", "-", "*", "/", "%", "**", "<<", ">>", "&", "|", "^"]

/-- An assignment. One that computes the new value of a variable from its old one
goes through the operator instead. -/
def assign (d : Deeper) (target : Expression) (symbol : Option String) (value : Expression)
    (p : Place) : Simplifying Statement := do
  let plain : Simplifying Statement := do
    let target ←
      match target with
      | .var .. | .path .. => pure target
      | .chain first links q => openChain d first links q
      | target => d.expression target
    pure (.assign target symbol (← d.expression value) p)
  match target, symbol, value with
  | .var name .., none, .operator operator [.var first .., second] q =>
    if assigning.contains operator ∧ first = name then
      anew (.assign target (some operator) second q)
    else plain
  | _, _, _ => plain

/-- Statements as one: nothing if there are none. -/
def blockOf (body : List Statement) (p : Place) : Statement :=
  match body with
  | [] => .skip p
  | body => .block body p

/-- A choice between two blocks. -/
def cond (d : Deeper) (keepsValue : Bool) (guard : Expression) (yes no : List Statement)
    (p : Place) : Simplifying Statement := do
  let manner : Manner := ⟨keepsValue, true, false⟩
  match guard, yes, no with
  | guard, [], [] =>
    note
    let q := guard.start
    let guard ← d.expression guard
    pure (if keepsValue then .block [.value guard, .skip q] q else .value guard)
  | .literal (.bool b) q, yes, no =>
    note
    if b then pure (blockOf (← d.block manner yes) p)
    else
      match no with
      | [] => pure (.skip q)
      | no => pure (blockOf (← d.block manner no) p)
  | guard, yes, no =>
    let guard ← d.expression guard
    let yes ← d.block manner yes
    pure (.cond guard yes (← d.block manner no) p)

/-- The expression of a case or of the default, as a statement. -/
def promoted (d : Deeper) (body : Expression) : Simplifying Statement :=
  d.statement true (.value body)

/-- The statement for a case that is known to match. -/
def settled (d : Deeper) (guard body : Expression) (otherwise : Option Expression) (p : Place) :
    Simplifying Statement := do
  note
  if guard.isBool true then promoted d body
  else
    let guard ← d.expression guard
    let no ←
      match otherwise with
      | some e => do pure [← promoted d e]
      | none => pure []
    pure (.cond guard [.value body] no p)

/-- The parts of a case. -/
def case (d : Deeper) : Case → Simplifying Case
  | .mk labels guard body => do
    let guard ← d.expression guard
    pure (.mk labels guard (← d.expression body))

/-- A choice among cases of which any may apply. A case with a condition that is false is
left out. -/
def openSwitch (d : Deeper) (subject : Expression) (cases : List Case)
    (otherwise : Option Expression) (p : Place) : Simplifying Statement := do
  let subject ← d.expression subject
  let cases ← cases.mapM (case d)
  let cases ← reduced cases (cases.filter fun | .mk _ guard _ => !guard.isBool false)
  pure (.switch subject cases (← d.optional otherwise) p)

/-- A choice among cases of an array or map that is known, which is in no range. It is
settled if the first case with a fitting label has no condition, or if there is no other such
case. -/
def knownSwitch (d : Deeper) (v : Value) (subject : Expression) (cases : List Case)
    (otherwise : Option Expression) (p : Place) : Simplifying Statement := do
  match cases.filter fun | .mk labels _ _ => labels.any (·.identical v) with
  | [] =>
    note
    match otherwise with
    | some e => promoted d e
    | none => pure (.block [] p)
  | .mk _ guard body :: rest =>
    if guard.isBool true || rest.isEmpty then settled d guard body otherwise p
    else openSwitch d subject cases otherwise p

/-- A choice among cases. Only that of an array or a map is made beforehand. -/
def switch (d : Deeper) (subject : Expression) (cases : List Case)
    (otherwise : Option Expression) (p : Place) : Simplifying Statement :=
  match subject, subject.constant? with
  | .array .., some v | .map .., some v => knownSwitch d v subject cases otherwise p
  | _, _ => openSwitch d subject cases otherwise p

/-- A statement. Its value may count. -/
def statement (d : Deeper) (keepsValue : Bool) (s : Statement) : Simplifying Statement := do
  match s with
  | .skip _ | .next _ | .publish .. => pure s
  | .value (.block [] p) => anew (.skip p)
  | .value (.block body p) =>
    note
    pure (.block (← d.block .valued body) p)
  | .value e => do pure (.value (← d.expression e))
  | .declare name value constant position p => do
    pure (.declare name (← d.expression value) constant position p)
  | .assign target symbol value p => assign d target symbol value p
  | .block body p =>
    match ← d.block ⟨keepsValue, true, false⟩ body with
    | [] => anew (.skip p)
    | [s] => if s.needsBlock then pure (.block [s] p) else anew s
    | body => pure (.block body p)
  | .cond guard yes no p => cond d keepsValue guard yes no p
  | .switch subject cases otherwise p => switch d subject cases otherwise p
  | .loop guard body brace p =>
    match guard with
    | some (.literal (.bool false) _) => anew (.skip p)
    | some (.literal (.bool true) _) | none =>
      pure (.loop none (← d.block .valueless body) brace p)
    | some guard => do
      let guard ← d.expression guard
      pure (.loop (some guard) (← d.block .valueless body) brace p)
  | .doLoop body guard goOn p => do
    let guard ← d.expression guard
    pure (.doLoop (← d.block .valueless body) guard goOn p)
  | .each item counter source body brace p => do
    let source ← d.expression source
    pure (.each item counter source (← d.block .valueless body) brace p)
  | .leave value p => do pure (.leave (← d.optional value) p)
  | .return value p => do pure (.return (← d.optional value) p)
  | .throw value p => do pure (.throw (← d.optional value) p)
  | .attempt body name handler p =>
    if Statement.arePure body then
      note
      pure (.block (← d.block .valueless body) p)
    else
      let body ← d.block .valueless body
      pure (.attempt body name (← d.block .valueless handler) p)
  | .load source p => do pure (.load (← d.expression source) p)

mutual

/-- A statement as it may stand in the block around it. -/
def flattened : Statement → List Statement
  | .block body p => if body.any Statement.needsBlock then [.block body p] else allFlattened body
  | s => [s]

/-- Statements as they may stand in the block around them. -/
def allFlattened : List Statement → List Statement
  | [] => []
  | s :: rest => flattened s ++ allFlattened rest

end

/-- Whether a statement is a block that its surroundings can do without. -/
def isNeedlessBlock : Statement → Bool
  | .block body _ => !body.any Statement.needsBlock
  | _ => false

/-- The statements up to the first way out. -/
def reached : List Statement → List Statement
  | [] => []
  | s :: rest => if s.isExit then [s] else s :: reached rest

/-- A statement of a block. A constant is known to those behind it. -/
def member (d : Deeper) (keepsValue : Bool) : Statement → Simplifying Statement
  | .declare name value constant position p => do
    let value ← d.expression value
    learn name (if constant then value.constant? else none)
    pure (.declare name value constant position p)
  | s => statement d keepsValue s

/-- Whether a block can do without a statement. -/
def Manner.omits (m : Manner) (s : Statement) : Bool :=
  if m.isInner then s.isLocallyPure else s.isPure

/-- Whether something in front of a statement may matter to it. -/
def Manner.depends (m : Manner) (s : Statement) : Bool :=
  !m.omits s ||
    match s with
    | .skip _ | .load .. | .publish .. => false
    | .value e => !e.isConstant
    | _ => true

/-- How many statements stand before the last one that may depend on others. -/
def lastDependent (m : Manner) (body : List Statement) : Nat :=
  match body.reverse.findIdx? m.depends with
  | some n => body.length - n - 1
  | none => 0

/-- The statements that a block cannot do without. Behind the last one that may
depend on others, declarations can be omitted as well. -/
def needed (m : Manner) (last at_ : Nat) : List Statement → List Statement
  | [] => []
  | s :: rest =>
    if m.keepsValue ∧ rest.isEmpty then [s]
    else if m.omits s ∧ last ≤ at_ then needed m last at_ rest
    else if s.isPure then needed m (if at_ < last then last - 1 else last) at_ rest
    else s :: needed m last (at_ + 1) rest

/-- Omits what a valueless block ends with and can do without. The statements
come last one first. -/
def trimmedEnd (m : Manner) : List Statement → List Statement
  | [] => []
  | s :: rest => if m.omits s then trimmedEnd m rest else s :: rest

/-- Omits what a block that has a value ends with and can do without. The
statements come last one first. -/
def trimmedValue (m : Manner) : List Statement → Simplifying (List Statement)
  | [] => pure []
  | .return none p :: rest =>
    if m.endsFunction then
      match rest with
      | [] => anew []
      | before :: _ =>
        if before.hasValue then anew (.skip p :: rest)
        else do
          note
          trimmedValue m rest
    else pure (.return none p :: rest)
  | .return (some e) p :: rest =>
    if m.endsFunction then anew (.value e :: rest) else pure (.return (some e) p :: rest)
  | [s] => if !s.hasValue && m.omits s then anew [] else pure [s]
  | s :: before :: rest =>
    if !s.hasValue && m.omits s then
      if before.hasValue then
        match s with
        | .skip _ => pure (s :: before :: rest)
        | s => anew (.skip s.place :: before :: rest)
      else do
        note
        trimmedValue m (before :: rest)
    else pure (s :: before :: rest)

/-- Simplifies the statements of a block once. -/
def pass (d : Deeper) (m : Manner) (body : List Statement) : Simplifying (List Statement) := do
  let outer := (← get).declared
  let body ← reduced body (reached body)
  let body ← body.mapM (member d m.keepsValue)
  let body ← reduced body (needed m (lastDependent m body) 0 body)
  let body ←
    if m.keepsValue then do pure (← trimmedValue m body.reverse).reverse
    else reduced body (trimmedEnd m body.reverse).reverse
  modify fun k => { k with declared := outer }
  pure body

/-- Simplifies the statements of a block until nothing changes; `fuel` bounds
how often. -/
def passes (d : Deeper) (m : Manner) : Nat → List Statement → Simplifying (List Statement)
  | 0, body => pure body
  | fuel + 1, body => do
    modify fun k => { k with changed := false }
    let body ← pass d m body
    if (← get).changed then passes d m fuel body else pure body

/-- How often a block may be simplified. -/
def maxPasses : Nat := 100000

/-- Simplifies the statements of a block. What changes inside it is no reason to go
through its surroundings again, unless the block has lost blocks of its own. -/
def block (d : Deeper) (m : Manner) (body : List Statement) : Simplifying (List Statement) := do
  match body with
  | [] => pure []
  | body =>
    let before := (← get).changed
    let after ← passes d m maxPasses (allFlattened body)
    modify fun k => { k with changed := before || body.any isNeedlessBlock }
    pure after

end MazeRobot.Script.Simplification

import MazeRobot.Script.Lexer
import MazeRobot.Script.Limits
import MazeRobot.Script.Tree

/-!
# Reading tokens

A reader takes tokens from the front of a list and fails at the first one that
breaks a rule. While it goes it keeps the variables in sight, so that it can
refuse changes of constants and find out what a closure takes from outside.
The reading of nested parts is passed in as an argument (`Recursion`), which
keeps every rule of the grammar a definition of its own.
-/

namespace MazeRobot.Script

/-- A variable that was declared. -/
structure Declared where
  /-- Its name. -/
  name : String
  /-- Whether it is a constant. -/
  isConstant : Bool
  /-- Whether it is gone when the script comes to what is read now. -/
  isGone : Bool

/-- What a reader has before it and behind it. -/
structure Reader where
  /-- The tokens still to be read; the last one is the end of the text. -/
  tokens : List Located
  /-- The variables in sight, newest first. -/
  scope : List Declared
  /-- How many of them were in sight before the present block. -/
  outside : Nat
  /-- The names that the present function takes from outside, newest first. -/
  taken : List (String × Place)
  /-- The functions read so far, newest first. -/
  functions : List Function
  /-- How many closures were read. -/
  closures : Nat

/-- A reader that has only tokens before it. -/
def Reader.ofTokens (tokens : List Located) : Reader where
  tokens := tokens
  scope := []
  outside := 0
  taken := []
  functions := []
  closures := 0

/-- Where a part of a script stands. -/
structure Context where
  /-- How many levels of nesting are around it. -/
  level : Nat
  /-- The greatest level; zero for any. -/
  maxLevel : Nat
  /-- How many items a literal may have; zero for any number. -/
  maxItems : Nat
  /-- The place that a complaint about too much nesting names. -/
  place : Place
  /-- Whether functions may be defined here. -/
  atTop : Bool
  /-- Whether it is inside a function. -/
  inFunction : Bool
  /-- Whether there is a loop to leave. -/
  inLoop : Bool
  /-- Whether a single bar ends the expression. -/
  barEnds : Bool
  /-- Whether what is read is data, in which the names of entries stand between quotes. -/
  asData : Bool

/-- A step of reading. One that fails has taken what it has taken. -/
abbrev Reading := ExceptT ParseError (StateM Reader)

/-- The parts of a script that contain one another. -/
inductive Part where
  /-- A statement. -/
  | statement
  /-- A choice between two blocks, behind the word that leads to it. -/
  | choice
  /-- Statements in braces. -/
  | block
  /-- An expression. -/
  | expression
  /-- An operand with the unary operators before it. -/
  | operand
  /-- What follows a first operand, down to operators that bind more strongly
  than the given strength. -/
  | operation (strength : Nat) (left : Expression)

/-- Statements in braces, and where the first brace stands. -/
structure Body where
  /-- The statements. -/
  statements : List Statement
  /-- The first brace. -/
  brace : Place

/-- What the reading of a part gives. -/
@[reducible] def Part.Result : Part → Type
  | statement | choice => Statement
  | block => Body
  | expression | operand | operation .. => Expression

/-- How to read a part of a script. -/
abbrev Recursion := (part : Part) → Context → Reading part.Result

namespace Reading

/-- Complains about a place. -/
def fail {α : Type} (c : Complaint) (p : Place) : Reading α :=
  throw ⟨c, p⟩

/-- The token ahead. -/
def peek : Reading Located := do
  match (← get).tokens with
  | [] => pure ⟨.eof, ⟨1, 1⟩⟩
  | found :: _ => pure found

/-- Takes the token ahead. The end of the text stays, but moves one place on. -/
def next : Reading Located := do
  let reader ← get
  match reader.tokens with
  | [] => pure ⟨.eof, ⟨1, 1⟩⟩
  | [found] =>
    set { reader with tokens := [{ found with place := Lexer.next found.place }] }
    pure found
  | found :: rest =>
    set { reader with tokens := rest }
    pure found

/-- Complains about a token, for the reason that it brings along if it has
one. -/
def reject {α : Type} (found : Located) (c : Complaint) : Reading α :=
  match found.token with
  | .bad why => fail why found.place
  | _ => fail c found.place

/-- Takes the token ahead if it is the wanted one. -/
def takes (wanted : Token) : Reading Bool := do
  if (← peek).token = wanted then
    let _ ← next
    pure true
  else pure false

/-- Takes a token that must be the wanted one. -/
def expect (wanted : Token) (why : String) : Reading Place := do
  let found ← next
  if found.token = wanted then pure found.place
  else reject found (.missing wanted.spelling why)

/-- Takes the token ahead if it is the wanted one, which it must be, and does not ask what a
broken token has to say. -/
def demand (wanted : Token) (why : String) : Reading Place := do
  let p := (← peek).place
  if ← takes wanted then pure p else fail (.missing wanted.spelling why) p

/-- Takes the name of a variable. -/
def variableName : Reading (String × Place) := do
  let found ← next
  match found.token with
  | .name name => pure (name, found.place)
  | .reserved word => fail (.reservedWord word) found.place
  | _ => reject found .variableExpected

/-- Repeats a step until it gives a result. -/
def repeatFrom {α β : Type} (step : α → Reading (α ⊕ β)) : Nat → α → Reading β
  | 0, _ => do fail .incomplete (← peek).place
  | fuel + 1, before => do
    match ← step before with
    | .inl after => repeatFrom step fuel after
    | .inr result => pure result

/-- Repeats a step until it gives a result. Each round takes a token at
least. -/
def iterate {α β : Type} (start : α) (step : α → Reading (α ⊕ β)) : Reading β := do
  repeatFrom step ((← get).tokens.length + 1) start

/-- Brings a variable into sight. -/
def declare (name : String) (constant : Bool) : Reading Unit :=
  modify fun r => { r with scope := ⟨name, constant, false⟩ :: r.scope }

/-- Reads something whose variables stay in sight but are gone when the script comes to what
is behind it. -/
def leavingTraces {α : Type} (inner : Reading α) : Reading α := do
  let count := (← get).scope.length
  let result ← inner
  modify fun r =>
    let added := r.scope.length - count
    { r with scope :=
        (r.scope.take added).map (fun d => { d with isGone := true }) ++ r.scope.drop added }
  pure result

/-- Reads something if that can be done. -/
def ifPossible {α : Type} (inner : Reading α) : Reading (Option α) :=
  tryCatch (some <$> inner) fun _ => pure none

/-- Such a reading never fails; what the inner one has taken before it failed stays taken. -/
theorem run_ifPossible {α : Type} (inner : Reading α) (r : Reader) :
    (ifPossible inner).run r = (.ok (inner.run r).1.toOption, (inner.run r).2) := by
  change (tryCatch (some <$> inner) (fun _ => pure none) : Reading (Option α)) r =
    (.ok (inner r).1.toOption, (inner r).2)
  rcases h : inner r with ⟨result, after⟩
  cases result <;>
    simp only [tryCatch, tryCatchThe, MonadExceptOf.tryCatch, ExceptT.tryCatch, ExceptT.mk,
      Functor.map, ExceptT.map, bind, StateT.bind, h, Except.toOption] <;>
    rfl

/-- Reads a function, which sees no variable around it. Gives the names that it takes from
outside as well. -/
def apart {α : Type} (inner : Reading α) : Reading (α × List (String × Place)) := do
  let outer ← get
  let back : Reading Unit := modify fun r =>
    { r with scope := outer.scope, outside := outer.outside, taken := outer.taken }
  set { outer with scope := [], outside := 0, taken := [] }
  tryCatch
    (do
      let result ← inner
      let taken := (← get).taken
      back
      pure (result, taken))
    fun e => do
      back
      throw e

/-- How a name is seen. -/
def sight (name : String) : Reading Sight := do
  let scope := (← get).scope
  match scope.findIdx? (·.name == name) with
  | none => pure .unseen
  | some n => pure (if (scope.take (n + 1)).any (·.isGone) then .displaced n else .seen)

/-- Reads something whose variables go out of sight behind it. -/
def keepingScope {α : Type} (inner : Reading α) : Reading α := do
  let scope := (← get).scope
  let result ← inner
  modify fun r => { r with scope := scope }
  pure result

/-- Reads the inside of a block, whose variables go out of sight behind it. -/
def inBlock {α : Type} (inner : Reading α) : Reading α := do
  let outer ← get
  set { outer with outside := outer.scope.length }
  let result ← inner
  modify fun r => { r with scope := outer.scope, outside := outer.outside }
  pure result

/-- Brings a variable into sight by a declaration. If the present block has one of the name
already, the new one takes its place, which is given. -/
def redeclare (name : String) (constant : Bool) : Reading (Option Nat) := do
  let reader ← get
  let inside := reader.scope.take (reader.scope.length - reader.outside)
  match inside.findIdx? (·.name == name) with
  | some n =>
    set { reader with scope := reader.scope.modify n fun d => { d with isConstant := constant } }
    pure (some n)
  | none =>
    declare name constant
    pure none

/-- Notes the use of a name: what is neither in sight nor a function is taken
from outside. -/
def use (name : String) (p : Place) : Reading Unit :=
  modify fun r =>
    if r.scope.any (·.name == name) || r.functions.any (·.name == name) ||
        r.taken.any (·.1 == name) then r
    else { r with taken := (name, p) :: r.taken }

end Reading

namespace Context

/-- The same context at another place. -/
def moved (c : Context) (p : Place) : Context :=
  { c with place := p }

/-- The context one level deeper. -/
def deeper (c : Context) : Reading Context :=
  if c.maxLevel != 0 && c.maxLevel ≤ c.level then Reading.fail .tooDeep c.place
  else pure { c with level := c.level + 1 }

/-- Takes the token that begins a part one level deeper. Gives where it stands and the
context of what it begins. -/
def entered (c : Context) : Reading (Place × Context) := do
  let p := (← Reading.peek).place
  let c ← (c.moved p).deeper
  let _ ← Reading.next
  pure (p, c)

/-- The context inside a loop. -/
def loop (c : Context) : Context :=
  { c with inLoop := true }

end Context

end MazeRobot.Script

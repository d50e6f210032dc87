import MazeRobot.Script.Evaluation.Calls
import MazeRobot.Script.FunctionName

/-!
# Functions that call functions

What arrays and maps do by calling a function for each of their items. The
function may take the item as an argument or be bound to it, and it may take the
number of the item as well. Its steps do not count, and every failure inside it,
whatever it is, becomes a failure of the function that called it.
-/

namespace MazeRobot.Script.Evaluation

open Eval

/-- How a function hands items on. -/
structure Handing where
  /-- The name by which failures know it. -/
  name : String
  /-- Where the call stands. -/
  place : Place
  /-- The position among the arguments at which the item can go, if it can. -/
  position : Option Nat
  /-- What is called for each item. -/
  callee : Callee

/-- A list with one more item at a position. -/
def insertAt {α : Type} (a : α) (n : Nat) (all : List α) : List α :=
  all.take n ++ a :: all.drop n

/-- Whether a call came to nothing because there is no function of that name. -/
def isMissing (name : String) : Settled Value → Bool
  | .error (.failed ⟨.noFunction signature, _⟩) => name.toList.isPrefixOf signature.toList
  | _ => false

/-- An interrupt as a failure of the function that called. -/
def Handing.wrapped (h : Handing) : Interrupt → Interrupt
  | .failed f => .failed ⟨.inCall h.name false f.cause f.place, some h.place⟩
  | _ => .failed ⟨.inCall h.name false .exited (some h.place), some h.place⟩

/-- Calls a function value for an item. -/
def Handing.attempt (h : Handing) (env : Env) (ev : Evaluator) (self : Option Holding)
    (arguments : List Value) : Eval Outcome := do
  match ← Eval.attempt (uncounted (deeper (apply env ev h.callee self arguments h.place))) with
  | .ok outcome => pure outcome
  | .error i => pure (.error i, self.map (·.value))

/-- Calls a function value for an item that it is bound to, with some arguments
and, if it takes so many, more of them. One that stands for a particular function
is called with as many arguments as that has parameters; any other with ever more
arguments until there is a function for them. -/
def Handing.call (h : Handing) (env : Env) (ev : Evaluator) (self : Option Holding)
    (arguments extras : List Value) : Eval Outcome := do
  let direct := (self, arguments)
  let wide := (self, arguments ++ extras)
  let moved : Option (List Value) :=
    match h.position, self with
    | some n, some item => some (insertAt item.value n arguments)
    | _, _ => none
  let takes (count : Nat) : Bool := h.callee.arity == some (h.callee.captured.length + count)
  let run (way : Option Holding × List Value) : Eval Outcome := h.attempt env ev way.1 way.2
  let (result, after) ← do
    if takes arguments.length then run direct
    else
      match moved with
      | some all =>
        if takes all.length then run (none, all)
        else if takes (all.length + extras.length) then run (none, all ++ extras)
        else if takes (arguments.length + extras.length) then run wide
        else search run direct (some all)
      | none =>
        if takes (arguments.length + extras.length) then run wide
        else search run direct none
  match result with
  | .ok v => pure (.ok v, after)
  | .error i => pure (.error (h.wrapped i), after)
where
  /-- Tries ever more arguments. -/
  search (run : Option Holding × List Value → Eval Outcome) (direct : Option Holding × List Value)
      (moved : Option (List Value)) : Eval Outcome := do
    let missing (outcome : Outcome) : Bool := isMissing h.callee.name outcome.1
    let first ← run direct
    if !missing first then pure first
    else
      match moved with
      | some all =>
        let second ← run (none, all)
        if !missing second then pure second else run (none, all ++ extras)
      | none => run (direct.1, direct.2 ++ extras)

/-- What a call gives that changes nothing. -/
def fresh (m : Eval Value) : Eval Outcome := do
  match ← attempt m with
  | .ok v => pure (.ok v, none)
  | .error i => pure (.error i, none)

/-- What the visit of an item comes to: a new state, and whether it goes on. The item may
have changed, also if the visit failed. -/
structure Visit (σ : Type) where
  /-- The new state, and whether it goes on. -/
  result : Settled (σ × Bool)
  /-- The item. -/
  item : Value

/-- Calls the function for an item that it is bound to, and looks at what it gives and at
the item. -/
def Handing.visit {σ : Type} (h : Handing) (env : Env) (ev : Evaluator) (item : Holding)
    (arguments extras : List Value) (answer : Value → Value → σ × Bool) : Eval (Visit σ) := do
  let (result, after) ← h.call env ev (some item) arguments extras
  let after := after.getD item.value
  pure ⟨result.map fun v => answer v after, after⟩

/-- What is gone through. -/
structure Walk where
  /-- The items. -/
  items : Array Value
  /-- What they were at first if they are constant. -/
  fixed : Option Value

/-- An item as it can be changed. -/
def Walk.holding (w : Walk) (n : Nat) (v : Value) : Holding :=
  ⟨v, Access.fixedPart w.fixed (.ofNat n)⟩

/-- Goes through the items from a position on, as long as `step` says so. Gives the last
state and the items as they are then. -/
def Walk.from {σ : Type} (w : Walk) (env : Env) (at_ : Nat) (start : σ)
    (step : Nat → Holding → σ → Eval (Visit σ)) : Eval (Settled σ × Array Value) :=
  iterate env (at_, start, w.items) fun (n, state, items) =>
    match items[n]? with
    | none => pure (.inr (.ok state, items))
    | some v => do
      let visit ← step n (w.holding n v) state
      let items := items.setIfInBounds n visit.item
      match visit.result with
      | .error i => pure (.inr (.error i, items))
      | .ok (state, true) => pure (.inl (n + 1, state, items))
      | .ok (state, false) => pure (.inr (.ok state, items))

/-- The outcome of a walk. -/
def walked {σ : Type} (value : σ → Array Value → Value) (end_ : Settled σ × Array Value) :
    Outcome :=
  (end_.1.map fun state => value state end_.2, some (.array end_.2))

section Arrays

variable (env : Env) (ev : Evaluator) (h : Handing)

/-- What the function gives for every item. -/
def mapped (w : Walk) : Eval Outcome := do
  let all ← w.from env 0 (#[] : Array Value) fun n item out =>
    h.visit env ev item [] [.ofNat n] fun v _ => (out.push v, true)
  pure (walked (fun out _ => .array out) all)

/-- The items for which the function is true. -/
def filtered (w : Walk) : Eval Outcome := do
  let all ← w.from env 0 (#[] : Array Value) fun n item out =>
    h.visit env ev item [] [.ofNat n] fun v after =>
      (if v.isTrue then out.push after else out, true)
  pure (walked (fun out _ => .array out) all)

/-- What is told of the first item, from a position on, for which the function is true, and
of none. -/
def sought (w : Walk) (start : Int) (told : Nat → Array Value → Value) (none_ : Value) :
    Eval Outcome :=
  match Library.nearby? w.items.size start with
  | none => pure (.ok none_, none)
  | some at_ => do
    let all ← w.from env at_ (none : Option Nat) fun n item _ =>
      h.visit env ev item [] [.ofNat n] fun v _ =>
        if v.isTrue then (some n, false) else (none, true)
    pure (walked (fun found items => (found.map fun n => told n items).getD none_) all)

/-- The position of the first item for which the function is true. -/
def position (w : Walk) (start : Int) : Eval Outcome :=
  sought env ev h w start (fun n _ => .ofNat n) (.int (-1))

/-- The first item for which the function is true. -/
def found (w : Walk) (start : Int) : Eval Outcome :=
  sought env ev h w start (fun n items => items[n]?.getD .unit) .unit

/-- The first value but the unit that the function gives. -/
def firstFound (w : Walk) (start : Int) : Eval Outcome :=
  match Library.nearby? w.items.size start with
  | none => pure (.ok .unit, none)
  | some at_ => do
    let all ← w.from env at_ Value.unit fun n item _ =>
      h.visit env ev item [] [.ofNat n] fun v _ => (v, v.isUnit)
    pure (walked (fun found _ => found) all)

/-- Whether the function is as wanted for some item; `answer` says what follows. -/
def isSome (w : Walk) (wanted : Bool) (answer : Bool → Bool) : Eval Outcome := do
  let all ← w.from env 0 false fun n item _ =>
    h.visit env ev item [] [.ofNat n] fun v _ =>
      let found := v.isTrue == wanted
      (found, !found)
  pure (walked (fun found _ => .bool (answer found)) all)

/-- The items taken one after the other into a value; `number` tells their
numbers. -/
def folded (w : Walk) (number : Nat → Nat) (first : Value) :
    Eval (Settled Value × Array Value) :=
  w.from env 0 first fun n item total =>
    h.visit env ev item [total] [.ofNat (number n)] fun v _ => (v, true)

/-- The items taken into a value, from the first one on. -/
def foldedForward (w : Walk) (first : Value) : Eval Outcome := do
  pure (walked (fun total _ => total) (← folded env ev h w (fun n => n) first))

/-- The walk that goes the other way. -/
def Walk.reversed (w : Walk) : Walk where
  items := w.items.reverse
  fixed := w.fixed.map fun v =>
    match v.bare with
    | .array items => .array items.reverse
    | v => v

/-- The items taken into a value, from the last one on. -/
def foldedBackward (w : Walk) (first : Value) : Eval Outcome := do
  let (total, items) ← folded env ev h w.reversed (fun n => w.items.size - 1 - n) first
  pure (total, some (.array items.reverse))

/-- The pairs of items of two arrays taken together. -/
def zipped (items others : Array Value) : Eval Value :=
  iterate env (0, (#[] : Array Value)) fun (n, out) =>
    match items[n]?, others[n]? with
    | some v, some w => do
      let v ← settle (← h.call env ev none [v, w] [.ofNat n]).1
      pure (.inl (n + 1, out.push v))
    | _, _ => pure (.inr (.array out))

/-- Calls the function for every item. -/
def forEach (w : Walk) : Eval Outcome := do
  let all ← w.from env 0 () fun n item _ =>
    h.visit env ev item [] [.ofNat n] fun _ _ => ((), true)
  pure (walked (fun _ _ => .unit) all)

/-- Takes out the items for which the function is true, or not. If it fails, what was taken
out is lost. -/
def takenOut (items : Array Value) (wanted : Bool) : Eval Outcome :=
  iterate env (0, ((#[], #[]) : Array Value × Array Value)) fun (n, taken, kept) =>
    match items[n]? with
    | none => pure (.inr (.ok (.array taken), some (.array kept)))
    | some v => do
      let (result, after) ← h.call env ev (some (.free v)) [] [.ofNat n]
      let v := after.getD v
      match result with
      | .error i =>
        pure (.inr (.error i, some (.array (kept.push v ++ items.extract (n + 1) items.size))))
      | .ok answer =>
        pure (.inl (n + 1,
          if answer.isTrue == wanted then (taken.push v, kept) else (taken, kept.push v)))

/-- How two values compare by the function: a negative number or the truth means
that the first one is less. What fails makes them equal. -/
def comparison (a b : Value) : Eval Int := do
  match (← h.attempt env ev none [a, b]).1.map Value.bare with
  | .ok (.int n) => pure n.toInt
  | .ok (.bool b) => pure (if b then -1 else 1)
  | .ok _ | .error _ => pure 0

/-- A value put among sorted values, the greatest of which comes first. -/
def insertSorted (v : Value) : List Value → Eval (List Value)
  | [] => pure [v]
  | w :: rest => do
    if (← comparison env ev h v w) < 0 then pure (w :: (← insertSorted v rest))
    else pure (v :: w :: rest)

/-- The values sorted by insertion, the greatest first. -/
def sortedByInsertion (sorted : List Value) : List Value → Eval (List Value)
  | [] => pure sorted
  | v :: rest => do sortedByInsertion (← insertSorted env ev h v sorted) rest

/-- Two sorted lists as one; of equal values the first list's come first. -/
def merged (as bs : List Value) : Eval (List Value) :=
  iterate env (([] : List Value), as, bs) fun (out, as, bs) =>
    match as, bs with
    | [], bs => pure (.inr (out.reverse ++ bs))
    | as, [] => pure (.inr (out.reverse ++ as))
    | a :: as, b :: bs => do
      if (← comparison env ev h b a) < 0 then pure (.inl (b :: out, a :: as, bs))
      else pure (.inl (a :: out, as, b :: bs))

/-- The values sorted by merging; `fuel` bounds how often a list is halved. -/
def sortedByMerging : Nat → List Value → Eval (List Value)
  | 0, all => pure all
  | _, [] => pure []
  | _, [v] => pure [v]
  | fuel + 1, all => do
    let half := all.length / 2
    let front ← sortedByMerging fuel (all.take half)
    let back ← sortedByMerging fuel (all.drop half)
    merged env ev h front back

/-- An array sorted by the function. -/
def sortedBy (items : Array Value) : Eval Outcome := do
  let all := items.toList
  let sorted ←
    if all.length ≤ 20 then do
      pure (← sortedByInsertion env ev h [] all).reverse
    else sortedByMerging env ev h all.length all
  pure (.ok .unit, some (.array sorted.toArray))

/-- An array without the items that the function finds equal to the one before
them. -/
def withoutDoubles (items : Array Value) : Eval Outcome :=
  iterate env (0, (#[] : Array Value)) fun (n, kept) =>
    match items[n]? with
    | none => pure (.inr (.ok .unit, some (.array kept)))
    | some v =>
      match kept.back? with
      | none => pure (.inl (n + 1, kept.push v))
      | some last => do
        match (← h.attempt env ev none [last, v]).1.map Value.isTrue with
        | .ok true => pure (.inl (n + 1, kept))
        | _ => pure (.inl (n + 1, kept.push v))

end Arrays

section Maps

variable (env : Env) (ev : Evaluator) (h : Handing)

/-- Goes through the entries of a map, which may be constant. Gives what `step` makes of
what the function gives for them, and the map as it is then. -/
def walkEntries (entries : Entries) (fixed : Option Value)
    (step : String → Value → Value → Entries → Entries) : Eval Outcome :=
  iterate env (entries, (entries, ([] : Entries))) fun (rest, all, out) =>
    match rest with
    | [] => pure (.inr (.ok (.map out.reverse), some (.map all)))
    | (name, v) :: rest => do
      let item : Holding := ⟨v, Access.fixedPart fixed (.string name)⟩
      let (result, after) ← h.call env ev (some item) [.string name] []
      let after := after.getD v
      let all := Entries.put name after all
      match result with
      | .error i => pure (.inr (.error i, some (.map all)))
      | .ok answer => pure (.inl (rest, all, step name answer after out))

/-- What the function gives for every entry. -/
def mappedEntries (entries : Entries) (fixed : Option Value) : Eval Outcome :=
  walkEntries env ev h entries fixed fun name v _ out => (name, v) :: out

/-- The entries for which the function is true. -/
def filteredEntries (entries : Entries) (fixed : Option Value) : Eval Outcome :=
  walkEntries env ev h entries fixed fun name v after out =>
    if v.isTrue then (name, after) :: out else out

/-- Takes out the entries for which the function is true, or not. If it fails, what was taken
out and the entry that it failed at are lost. -/
def takenOutEntries (entries : Entries) (wanted : Bool) : Eval Outcome :=
  iterate env (entries, (([], []) : Entries × Entries)) fun (rest, taken, kept) =>
    match rest with
    | [] => pure (.inr (.ok (.map taken.reverse), some (.map kept.reverse)))
    | (name, v) :: rest => do
      let (result, after) ← h.call env ev (some (.free v)) [.string name] []
      let entry := (name, after.getD v)
      match result with
      | .error i => pure (.inr (.error i, some (.map (kept.reverse ++ rest))))
      | .ok answer =>
        pure (.inl (rest,
          if answer.isTrue == wanted then (entry :: taken, kept) else (taken, entry :: kept)))

end Maps

/-- Whether a function may be named by a text. -/
def takesName (name : String) : Bool :=
  ["map", "filter", "index_of", "some", "all", "dedup", "reduce", "reduce_rev", "sort", "drain",
    "retain"].contains name

/-- The function value that an argument is or names. A text that is looked for names one
only if the script has a function of that name. -/
def calleeOf (program : Program) (name : String) (v : Value) : Option (Except Cause Callee) :=
  match v.bare with
  | .string f =>
    if !takesName name || (name == "index_of" && (program.named? f).isNone) then none
    else
      match FunctionName.fault? f with
      | some c => some (.error c)
      | none => some (.ok ⟨f, none, []⟩)
  | v => (callee? v).map .ok

/-- The functions on arrays that call a function. -/
def arrayCall? (env : Env) (ev : Evaluator) (name : String) (w : Walk)
    (make : String → Option Nat → Handing) (others : List Value) : Option (Eval Outcome) :=
  match name, others with
  | "map", [] => some (mapped env ev (make "map" (some 0)) w)
  | "filter", [] => some (filtered env ev (make "filter" (some 0)) w)
  | "index_of", [] => some (position env ev (make "index_of" (some 0)) w 0)
  | "index_of", [.int n] => some (position env ev (make "index_of" (some 0)) w n.toInt)
  | "find", [] => some (found env ev (make "index_of" (some 0)) w 0)
  | "find", [.int n] => some (found env ev (make "index_of" (some 0)) w n.toInt)
  | "find_map", [] => some (firstFound env ev (make "find_map" (some 0)) w 0)
  | "find_map", [.int n] => some (firstFound env ev (make "find_map" (some 0)) w n.toInt)
  | "some", [] => some (isSome env ev (make "some" (some 0)) w true fun b => b)
  | "all", [] => some (isSome env ev (make "all" (some 0)) w false not)
  | "reduce", [] => some (foldedForward env ev (make "reduce" (some 1)) w .unit)
  | "reduce", [first] => some (foldedForward env ev (make "reduce" (some 1)) w first)
  | "reduce_rev", [] => some (foldedBackward env ev (make "reduce_rev" (some 1)) w .unit)
  | "reduce_rev", [first] => some (foldedBackward env ev (make "reduce_rev" (some 1)) w first)
  | "for_each", [] => some (forEach env ev (make "for_each" none) w)
  | "drain", [] => some (takenOut env ev (make "drain" (some 0)) w.items true)
  | "retain", [] => some (takenOut env ev (make "retain" (some 0)) w.items false)
  | "sort", [] | "sort_by", [] => some (sortedBy env ev (make "sort" none) w.items)
  | "order", [] | "order_by", [] => some (do
    let (result, after) ← sortedBy env ev (make "order" none) w.items
    pure (result.map fun _ => after.getD .unit, none))
  | "dedup", [] => some (withoutDoubles env ev (make "dedup" none) w.items)
  | _, _ => none

/-- The functions on maps that call a function. -/
def mapCall? (env : Env) (ev : Evaluator) (name : String) (entries : Entries)
    (fixed : Option Value) (make : String → Option Nat → Handing) : Option (Eval Outcome) :=
  match name with
  | "map" => some (mappedEntries env ev (make "filter" (some 1)) entries fixed)
  | "filter" => some (filteredEntries env ev (make "filter" (some 1)) entries fixed)
  | "drain" => some (takenOutEntries env ev (make "drain" (some 1)) entries true)
  | "retain" => some (takenOutEntries env ev (make "retain" (some 1)) entries false)
  | _ => none

/-- The functions that call functions. The first argument may be a constant; then `fixed`
is what it was at first. -/
def callback? (env : Env) (ev : Evaluator) (name : String) (arguments : List Value)
    (fixed : Option Value) (p : Place) : Option (Eval Outcome) :=
  let make (callee : Callee) (reported : String) (position : Option Nat) : Handing :=
    ⟨reported, p, position, callee⟩
  match arguments with
  | [.array items, .array others, f] =>
    if name = "zip" then
      (callee? f).map fun callee => fresh (zipped env ev (make callee "zip" none) items others)
    else none
  | .array items :: f :: others =>
    let w : Walk := ⟨items, fixed⟩
    match calleeOf env.program name f with
    | some (.ok callee) => arrayCall? env ev name w (make callee) others
    | some (.error c) =>
      (arrayCall? env ev name w (make ⟨"", none, []⟩) others).map fun _ =>
        pure (.error (.failed ⟨c, some p⟩), none)
    | none => none
  | [.map entries, f] =>
    (callee? f).bind fun callee => mapCall? env ev name entries fixed (make callee)
  | _ => none

end MazeRobot.Script.Evaluation

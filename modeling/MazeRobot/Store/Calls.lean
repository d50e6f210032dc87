import MazeRobot.Store.Files

/-!
# Calls of a store

Whoever uses a store calls it many times. A store on a disk can be opened again
at any time, by another program too: it keeps nothing but the name of its
directory.
-/

namespace MazeRobot.Store

/-- A call of a store. -/
inductive Call where
  /-- Load the script of a puzzle for a team. -/
  | load (puzzle team : String)
  /-- Save a script of a puzzle for a team. -/
  | save (puzzle team code : String)
  deriving DecidableEq, Repr

/-- Whether both names of a call are in order. -/
def Call.isFit : Call → Bool
  | load puzzle team | save puzzle team _ => isKey puzzle && isKey team

/-- Whether the names and the path of a file that is to be written below a directory are no
longer than a disk can take. -/
def Call.isShort (root : String) : Call → Bool
  | load _ _ => true
  | save puzzle team _ =>
    decide (team.utf8ByteSize ≤ Disk.maxName ∧ (puzzle ++ ".json").utf8ByteSize ≤ Disk.maxName ∧
      (file root puzzle team).utf8ByteSize ≤ Disk.maxPath)

/-- What a call returns: the script that was loaded, if there is one, or the one that
was saved. -/
abbrev Reply := Except Fault (Option SavedCode)

section Answers

variable {σ : Type}

/-- A store after a call, and what the call returned. -/
def answer (store : Store σ) (state : σ) : Call → σ × Reply
  | .load puzzle team => (state, store.load state puzzle team)
  | .save puzzle team code =>
    match store.save state puzzle team code with
    | (state, .error fault) => (state, .error fault)
    | (state, .ok saved) => (state, .ok (some saved))

/-- A store after calls, one after the other, and what they returned. -/
def answerAll (store : Store σ) : List Call → σ → σ × List Reply
  | [], state => (state, [])
  | call :: rest, state =>
    let (state, reply) := store.answer state call
    let (state, later) := answerAll store rest state
    (state, reply :: later)

end Answers

/-- A disk after sittings, one after the other, and what their calls returned. For each
of them the store is opened anew. -/
def sitAll (root : String) : List (List Call) → Disk → Disk × List Reply
  | [], disk => (disk, [])
  | calls :: rest, disk =>
    let (disk, replies) := (onDisk root).answerAll calls disk
    let (disk, later) := sitAll root rest disk
    (disk, replies ++ later)

end MazeRobot.Store

import MazeRobot.Disk

/-!
# Programs that read files

A reading is all that a program will ever do with files: it is over, or it
reads a path and goes on in a way that depends on what it found there. It can
be carried out on a disk, or by whoever has real files.
-/

namespace MazeRobot

/-- A program that reads files. -/
inductive FileReading (α : Type) where
  /-- Nothing more. -/
  | done (result : α)
  /-- Read a file and go on by what it holds. -/
  | read (path : String) (next : Except Disk.Fault String → FileReading α)

namespace FileReading

/-- One reading and, by its result, another one. -/
def bind {α β : Type} : FileReading α → (α → FileReading β) → FileReading β
  | done a, f => f a
  | read path next, f => read path fun content => bind (next content) f

instance : Monad FileReading where
  pure := done
  bind := bind

/-- Reads one file. -/
def file (path : String) : FileReading (Except Disk.Fault String) :=
  read path done

/-- Carries a reading out on a disk. -/
def onDisk {α : Type} (disk : Disk) : FileReading α → α
  | done a => a
  | read path next => (next (disk.read path)).onDisk disk

end FileReading

end MazeRobot

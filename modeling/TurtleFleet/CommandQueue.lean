import TurtleFleet.Block
import TurtleFleet.Command.Action
import TurtleFleet.Text.Quoted

/-! The queue of one turtle's commands. Submissions are numbered in the order in which they come in,
and the commands leave in that order. A closed queue still numbers submissions but keeps none. -/

namespace TurtleFleet

def firstSubmission : Nat := 1

structure QueueEntry (C : Type) where
  id : Nat
  command : C
deriving Repr

def QueueEntry.describe {C : Type} [Command C] (entry : QueueEntry C) : String :=
  s!"QueueEntry \x7b correlation_id: {entry.id}, command: " ++
    Text.quote (Command.name entry.command) ++ " \x7d"

structure CommandQueue (C : Type) where
  nextId : Nat := firstSubmission
  entries : List (QueueEntry C) := []
  /-- Whether the commands will ever be run or answered. -/
  isOpen : Bool := true
deriving Repr

namespace CommandQueue

variable {C : Type}

/-- Takes a command in and answers its number. The numbers stop at the largest of their word. -/
def submit (queue : CommandQueue C) (command : C) : Nat × CommandQueue C :=
  let id := queue.nextId
  let entry : QueueEntry C := { id := id, command := command }
  let entries := if queue.isOpen then queue.entries ++ [entry] else queue.entries
  (id, { queue with nextId := min (id + 1) (word64 - 1), entries })

/-- The oldest entry and the queue without it. -/
def pop? (queue : CommandQueue C) : Option (QueueEntry C × CommandQueue C) :=
  match queue.entries with
  | [] => none
  | entry :: entries => some (entry, { queue with entries })

/-- No further command will be run. -/
def close (queue : CommandQueue C) : CommandQueue C := { queue with entries := [], isOpen := false }

end CommandQueue

end TurtleFleet

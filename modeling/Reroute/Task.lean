/-!
Tasks that run in the background.  Stopping drops a task that is still running, and otherwise
hands out what it has come to.  The task that waits for connections goes on after a failure that
concerns one connection alone.
-/
namespace Reroute

/-- A task: still running, or finished with a value or an error. -/
inductive Task (ε α : Type) where
  | running
  | finished (result : Except ε α)

namespace Task

variable {ε α : Type}

/-- Stop a task.  One that was still running has no value. -/
def stop : Task ε α → Except ε (Option α)
  | .running => .ok none
  | .finished result => result.map some

end Task

/-- The kinds of errors that waiting for a connection ends with. -/
inductive ConnectionFailure where
  | refused
  | aborted
  | reset
  | other
deriving Repr, DecidableEq

/-- Whether a failure belongs to one connection, so that the next one may well succeed and
the listener goes on. -/
def ConnectionFailure.isOfConnection : ConnectionFailure → Bool
  | .refused => true
  | .aborted => true
  | .reset => true
  | .other => false

end Reroute

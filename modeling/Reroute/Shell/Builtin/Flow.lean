import Reroute.Shell.Builtin.Basic
import Reroute.Shell.Condition
import Reroute.Shell.Format

/-!
The builtins for the order of commands, for output and for conditions.
-/
namespace Reroute.Shell.Builtin

open Machine

/-- Leave loops, or begin their next round.  No more loops are left than there are. -/
def skipLoops (skip : Skip) : Builtin := fun arguments => do
  let n ← match arguments with
    | [] => pure 1
    | first :: _ => do
        let n ← count first
        if n = 0 then abort ("Illegal number: ".toList ++ first)
        pure n
  change fun shell =>
    let n := min n shell.loops
    if n = 0 then shell else { shell with skip := skip, skipCount := n }
  pure 0

/-- Leave a function or a text of commands. -/
def leave : Builtin := fun arguments => do
  match arguments with
  | [] => do
      change fun shell => { shell with skip := .text }
      pure (← getShell).status
  | first :: _ => do
      let n ← count first
      change fun shell => { shell with skip := .function }
      pure n

/-- End the shell. -/
def exit : Builtin := fun arguments => do
  match arguments with
  | [] => pure ()
  | first :: _ => do
      let n ← count first
      change fun shell => { shell with savedStatus := some n }
  throw .exit

/-- Write arguments. -/
def echo : Builtin := fun arguments => do
  emit (Format.echo arguments)
  pure 0

/-- Write what a format makes of arguments.  Complaints come out before what was written. -/
def printf : Builtin := fun arguments => do
  match ← operands arguments with
  | [] => abort "usage: printf format [arg ...]".toList
  | pattern :: rest => do
      let output := Format.format pattern (rest.length + 1) rest
      for complaint in output.complaints do warn complaint.message
      emit output.text
      match output.fault with
      | some fault => abort fault.message
      | none => pure (if output.complaints.isEmpty then 0 else 1)

/-- Tell whether a condition holds. -/
def test : Builtin := fun arguments => do
  match Condition.holds (← getSystem) arguments with
  | .ok true => pure 0
  | .ok false => pure 1
  | .error reason => abort reason

/-- Tell whether a condition in brackets holds. -/
def bracketed : Builtin := fun arguments => do
  if arguments.getLast? = some [']'] then test arguments.dropLast
  else abort "missing ]".toList

end Reroute.Shell.Builtin

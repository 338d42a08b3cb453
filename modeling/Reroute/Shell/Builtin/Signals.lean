import Reroute.Shell.Builtin.Jobs

/-!
The builtins for signals: sending them and answering them.  A signal that a shell sends to
itself is answered behind the command that sends it.
-/
namespace Reroute.Shell

namespace Machine

/-- Send a signal to a process, and tell whether there is one.  A process that has ended is
still there until its ending was asked for. -/
def send (signal process : Nat) : Run Bool := do
  let machine : Machine ← get
  if process = machine.system.process.id then do
    receive signal
    pure true
  else
    let waits := (machine.waiting.lookup process).isSome
    if waits || (machine.live.lookup process).isSome then do
      set { machine with sent := machine.sent ++ [(process, signal)] }
      changeSystem fun system =>
        { system with world := { system.world with events := system.world.events + 1 } }
      pure true
    else
      pure (machine.jobs.any fun job => job.processes.contains process && !job.awaited)

end Machine

namespace Builtin

open Machine

/-- How the sending of signals is used. -/
def sendUsage : Text :=
  ("Usage: kill [-s sigspec | -signum | -sigspec] [pid | job]... or\n" ++
    "kill -l [exitstatus]").toList

/-- The signal of a name or a number, from the first one on or from none at all. -/
def signalOf? (fromNone : Bool) (s : Text) : Option Nat :=
  match signal? s with
  | some 0 => if fromNone || s.all Char.isDigit then some 0 else none
  | found => found

/-- Tell the name of a signal, or of the one that a status tells. -/
def tellSignal (s : Text) : Run Nat := do
  let n ← count s
  let n := if 128 < n then n - 128 else n
  if n = 0 ∨ 64 < n then abort ("invalid signal number or exit status: ".toList ++ s)
  emitLine (signalName n)
  pure 0

/-- Send a signal to what an argument tells: a process, a group, or a job. -/
def sendTo (signal : Nat) (target : Text) : Run Bool := do
  let reached ← match target with
    | '%' :: _ => do
        -- A job is no group of its own, so there is nothing to reach.
        let _ ← jobOf (some target)
        pure false
    | '-' :: group => do
        let _ ← count group
        pure false
    | _ => do
        let n ← count target
        if n = 0 then do
          receive signal
          pure true
        else send signal n
  if !reached then warn "No such process\n".toList
  pure reached

/-- Send a signal, or tell the names of signals. -/
def kill : Builtin := fun arguments => do
  let direct? := match arguments with
    | ('-' :: name) :: _ => signalOf? false name
    | _ => none
  let (listed, signal?, targets) ← match direct? with
    | some signal => pure (false, some signal, arguments.drop 1)
    | none => do
        let (found, rest) ← options "ls:" arguments
        let mut signal? : Option Nat := none
        let mut listed := false
        for (c, value) in found do
          if c = 'l' then listed := true
          else
            match signalOf? false value with
            | some signal => signal? := some signal
            | none => abort ("invalid signal number or name: ".toList ++ value)
        pure (listed, signal?, rest)
  if listed then
    if signal?.isSome && !targets.isEmpty then abort sendUsage
    match targets with
    | [] => do
        emitLine ['0']
        for number in List.range 64 do emitLine (signalName (number + 1))
        pure 0
    | s :: _ => tellSignal s
  else
    if targets.isEmpty then abort sendUsage
    let missed ← targets.filterM fun target => do
      pure !(← sendTo (signal?.getD 15) target)
    pure (if missed.isEmpty then 0 else 1)

/-- The name of a signal in the list of actions. -/
def actionName (signal : Nat) : Text :=
  if signal = 0 then "EXIT".toList else signalName signal

/-- Note what answers signals, or the end of the shell. -/
def trap : Builtin := fun arguments => do
  match ← operands arguments with
  | [] => do
      let traps := (← getShell).traps
      for (signal, action) in traps.mergeSort fun a b => a.1 ≤ b.1 do
        emitLine ("trap -- ".toList ++ singleQuoted action ++ ' ' :: actionName signal)
      pure 0
  | first :: rest =>
      let isNumber := !first.isEmpty && first.all Char.isDigit && (signalOf? true first).isSome
      let (action?, signals) :=
        if rest.isEmpty || isNumber then (none, first :: rest)
        else (if first = ['-'] then none else some first, rest)
      let known := signals.takeWhile fun name => (signalOf? true name).isSome
      for signal in known.filterMap (signalOf? true) do
        change fun shell =>
          { shell with
            traps := match action? with
              | some action => replaceKey signal action shell.traps
              | none => removeKey signal shell.traps }
      match signals.drop known.length with
      | name :: _ => do
          complainRaw ("trap: ".toList ++ name ++ ": bad trap\n".toList)
          pure 1
      | [] => pure 0

end Builtin

end Reroute.Shell

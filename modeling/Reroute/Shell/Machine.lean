import Reroute.Shell.State

/-!
The runs of shells.  A run works on the state of all processes and may end before its time;
then the interrupt tells why.  It may also pause, so that the jobs of a script run side by
side: until a time, until something has happened to a job, or to let a job start.
-/
namespace Reroute.Shell

/-- What ends a run before its time: a complaint, the end of all commands, a wish to end, a
signal, or the end of a program that took the place of the shell. -/
inductive Interrupt where
  | error
  | finished
  | exit
  | killed (signal : Nat)
  | replaced (status : Nat)
deriving Repr, DecidableEq

/-- What a command has to know of its place: whether its status is looked at, so that a failure
ends nothing, and whether the shell ends behind it. -/
structure Standing where
  tested : Bool := false
  exits : Bool := false

/-- Processes that were started in the background: their numbers, the process that has started
them, and the number of the job there. -/
structure Job where
  processes : List Nat
  parent : Nat
  number : Nat
  awaited : Bool

/-- The process that a job is known by. -/
def Job.process (job : Job) : Nat := job.processes.getLast?.getD 0

/-- The state of a run: the processes with their files, the shell at work, the processes that
wait for it, each with what answers its signals, the jobs, the processes that run beside each
other, each with the pipes that it may write to, when and how the others of them have ended, and
the signals that have yet to reach a process. -/
structure Machine where
  system : System
  shell : Session
  waiting : List (Nat × List (Nat × Text)) := []
  jobs : List Job := []
  live : List (Nat × List Nat) := []
  endings : List (Nat × Nat × Ending) := []
  sent : List (Nat × Nat) := []

/-- How a job has ended, if it has. -/
def Job.ending? (job : Job) (machine : Machine) : Option Ending :=
  if job.processes.all fun process => (machine.endings.lookup process).isSome then
    (machine.endings.lookup job.process).map Prod.snd
  else none

/-- Why a run pauses: until a time, until something has happened, or to let a process start
that runs a command. -/
inductive Pause where
  | sleep (wake : Nat)
  | rest
  | start (process : Process) (shell : Session) (standing : Standing) (command : Command)

/-- The course of a run: it has ended with a result, or it has paused and goes on from the state
that it finds then. -/
inductive Course (α : Type) where
  | ended (result : Except Interrupt α) (machine : Machine)
  | paused (pause : Pause) (machine : Machine) (onward : Machine → Course α)

/-- Go on behind a course that has ended. -/
def Course.andThen {α β : Type} (course : Course α)
    (next : Except Interrupt α → Machine → Course β) : Course β :=
  match course with
  | .ended result machine => next result machine
  | .paused pause machine onward =>
      .paused pause machine fun machine => (onward machine).andThen next

/-- A run. -/
def Run (α : Type) : Type := Machine → Course α

namespace Run

/-- End with a value. -/
@[always_inline, inline]
def ofValue {α : Type} (a : α) : Run α := fun machine => .ended (.ok a) machine

/-- Run one thing behind another. -/
@[always_inline, inline]
def andThen {α β : Type} (run : Run α) (next : α → Run β) : Run β := fun machine =>
  match run machine with
  | .ended (.ok a) machine => next a machine
  | .ended (.error interrupt) machine => .ended (.error interrupt) machine
  | .paused pause machine onward =>
      .paused pause machine fun machine => (onward machine).andThen fun
        | .ok a, machine => next a machine
        | .error interrupt, machine => .ended (.error interrupt) machine

/-- Run something, and take its result whatever that is. -/
@[always_inline, inline]
def attempt {α : Type} (run : Run α) : Run (Except Interrupt α) := fun machine =>
  match run machine with
  | .ended result machine => .ended (.ok result) machine
  | .paused pause machine onward =>
      .paused pause machine fun machine =>
        (onward machine).andThen fun result machine => .ended (.ok result) machine

@[always_inline]
instance : Monad Run where
  pure := ofValue
  bind := andThen

@[always_inline]
instance : MonadStateOf Machine Run where
  get := fun machine => .ended (.ok machine) machine
  set machine := fun _ => .ended (.ok ()) machine
  modifyGet f := fun machine =>
    let (a, machine) := f machine
    .ended (.ok a) machine

@[always_inline]
instance : MonadExceptOf Interrupt Run where
  throw interrupt := fun machine => .ended (.error interrupt) machine
  tryCatch run handle := andThen (attempt run) fun
    | .ok a => ofValue a
    | .error interrupt => handle interrupt

instance {α : Type} : Inhabited (Run α) := ⟨fun machine => .ended (.error .error) machine⟩

end Run

namespace Machine

/-- Pause. -/
def pause (pause : Pause) : Run Unit := fun machine =>
  .paused pause machine fun machine => .ended (.ok ()) machine

/-- The shell at work. -/
def getShell : Run Session := do
  pure (← get).shell

/-- Change the shell at work. -/
def change (f : Session → Session) : Run Unit :=
  modify fun machine => { machine with shell := f machine.shell }

/-- Change the system. -/
def changeSystem (f : System → System) : Run Unit :=
  modify fun machine => { machine with system := f machine.system }

/-- The system. -/
def getSystem : Run System := do
  pure (← get).system

/-- Let a signal reach the shell at work.  An action is noted to be run, and without one the
signal may end the shell. -/
def receive (signal : Nat) : Run Unit := do
  let shell ← getShell
  match if harshSignals.contains signal then none else shell.traps.lookup signal with
  | some [] => pure ()
  | some _ =>
      if !shell.caught.contains signal then
        change fun shell => { shell with caught := shell.caught ++ [signal] }
  | none => if !harmlessSignals.contains signal then throw (.killed signal)

/-- Let the signals reach the shell at work that were sent to it. -/
def receiveSent : Run Unit := do
  let machine : Machine ← get
  if !machine.sent.isEmpty then
    let id := machine.system.process.id
    let mine := machine.sent.filter fun entry => entry.1 == id
    set { machine with sent := machine.sent.filter fun entry => entry.1 != id }
    for (_, signal) in mine do receive signal

/-- Pause until something has happened. -/
def rest : Run Unit := do
  pause .rest
  receiveSent

/-- Pause for some time. -/
def sleep (milliseconds : Nat) : Run Unit := do
  pause (.sleep ((← getSystem).world.clock + milliseconds))
  receiveSent

/-- Let other processes go on that are ready, as happens when a process takes its time. -/
def yield : Run Unit := do
  let machine : Machine ← get
  if 1 < machine.live.length then sleep 0

/-- The number of bytes that a pipe holds before its writer has to wait. -/
def pipeCapacity : Nat := 65536

/-- The pipe behind a descriptor. -/
def pipeAt? (machine : Machine) (descriptor : Nat) : Option (Nat × Pipe) := do
  match ← machine.system.openFile? descriptor with
  | { channel := .pipe id, .. } => do pure (id, ← machine.system.world.pipes[id]?)
  | _ => none

/-- Whether nobody reads from a pipe any more. -/
def isBroken (machine : Machine) (pipe : Pipe) : Bool :=
  match pipe.reader? with
  | some reader => (machine.endings.lookup reader).isSome
  | none => false

/-- Whether another process may write to a pipe. -/
def isWritten (machine : Machine) (id : Nat) : Bool :=
  machine.live.any fun entry => entry.2.contains id

/-- Wait until a pipe can be written to. -/
def awaitRoom (descriptor : Nat) : Nat → Run Unit
  | 0 => pure ()
  | fuel + 1 => do
      let machine : Machine ← get
      match machine.pipeAt? descriptor with
      | some (_, pipe) =>
          if pipe.reader?.isSome && pipeCapacity ≤ pipe.size && !machine.isBroken pipe then do
            rest
            awaitRoom descriptor fuel
      | none => pure ()

/-- How often something is waited for. -/
def patience : Nat := 1000000000

/-- Write to a descriptor, or tell why that is impossible.  A pipe that nobody reads from ends the
writer, unless it does not listen. -/
def write (descriptor : Nat) (text : Text) : Run (Except SystemError Unit) := do
  awaitRoom descriptor patience
  let machine : Machine ← get
  let broken := !text.isEmpty &&
    ((machine.pipeAt? descriptor).map fun entry => machine.isBroken entry.2) == some true
  if broken then do
    receive 13
    pure (.error .brokenPipe)
  else
    match machine.system.write descriptor text with
    | .ok system => do
        changeSystem fun _ => system
        pure (.ok ())
    | .error error => pure (.error error)

/-- Write to a descriptor, and tell whether that was possible. -/
def writeTo (descriptor : Nat) (text : Text) : Run Bool := do
  match ← write descriptor text with
  | .ok () => pure true
  | .error _ => pure false

/-- What can be read from a descriptor, when there is enough of it or no more will come.  The
second component tells whether there is no more. -/
def await (descriptor amount : Nat) (isEnough : Text → Bool) :
    Nat → Run (Except SystemError (Text × Bool))
  | 0 => pure (.ok ([], true))
  | fuel + 1 => do
      let machine : Machine ← get
      match machine.system.peek descriptor amount with
      | .error error => pure (.error error)
      | .ok (text, endless) =>
          match machine.pipeAt? descriptor with
          | none => pure (.ok (text, !endless))
          | some (id, _) =>
              if !machine.isWritten id then pure (.ok (text, true))
              else if isEnough text then pure (.ok (text, false))
              else do
                let caught := machine.shell.caught.length
                rest
                if caught < (← getShell).caught.length then pure (.ok (text, true))
                else await descriptor amount isEnough fuel

/-- Write to the errors. -/
def complainRaw (text : Text) : Run Unit := do
  let _ ← writeTo 2 text

/-- Complain, and go on. -/
def warn (text : Text) : Run Unit := do
  complainRaw ((← getShell).complaint text)

/-- Put text into the output of the builtin at work. -/
def emit (text : Text) : Run Unit :=
  change fun shell => { shell with buffer := text :: shell.buffer }

/-- Write out what the builtin at work has put into its output. -/
def flush : Run Unit := do
  let shell ← getShell
  let text := shell.buffer.reverse.flatten
  change fun shell => { shell with buffer := [] }
  if !text.isEmpty then
    if !(← writeTo 1 text) then change fun shell => { shell with failedOutput := true }

/-- Complain, and give up what is at work. -/
def abort {α : Type} (text : Text) : Run α := do
  warn text
  flush
  change fun shell => { shell with status := 2, failedOutput := false }
  throw .error

end Machine

namespace Machine

/-- The variable of a name that may be changed. -/
def changeable (name : Text) : Run Variable := do
  if !isName name then abort (name ++ ": bad variable name".toList)
  let v := ((← getShell).named.lookup name).getD ⟨none, false, false⟩
  if v.isConstant then abort (name ++ ": is read only".toList)
  pure v

/-- Give a variable a value, unless it has one for good. -/
def assign (name value : Text) (isExported isConstant : Bool := false) : Run Unit := do
  let before ← changeable name
  change fun shell =>
    shell.put name ⟨some value, before.isExported || isExported || shell.has 'a', isConstant⟩

/-- Take the value of a variable away, unless it has one for good. -/
def unset (name : Text) : Run Unit := do
  let _ ← changeable name
  change fun shell => shell.unset name

end Machine

end Reroute.Shell

import Reroute.Shell.Evaluation

/-!
Processes side by side.  A thread is a process that has paused, and time passes when all of
them wait for it.  Of those that may go on the one goes on first whose time is the earliest; a
process that has started another comes before it.
-/
namespace Reroute.Shell

/-- A process that has paused: what it has of its own, its time, the time that it waits for, if
it waits for one, the number of events that it has seen, and how it goes on. -/
structure Thread where
  id : Nat
  process : Process
  shell : Session
  waiting : List (Nat × List (Nat × Text))
  clock : Nat
  wake? : Option Nat
  seen : Nat
  onward : Machine → Course Ending

namespace Schedule

/-- When a thread may go on, if it may: at the time that it waits for, or when something has
happened that it has not seen. -/
def readyAt? (machine : Machine) (thread : Thread) : Option Nat :=
  let now := machine.system.world.clock
  if machine.sent.any fun entry => entry.1 == thread.process.id then some now
  else
    match thread.wake? with
    | some wake => some wake
    | none => if thread.seen = machine.system.world.events then none else some (max now thread.clock)

/-- The thread that goes on first, with its time, and the others. -/
def next? (machine : Machine) : List Thread → Option (Thread × Nat × List Thread)
  | [] => none
  | thread :: rest =>
      match readyAt? machine thread, next? machine rest with
      | some time, some (other, time', others) =>
          if time ≤ time' then some (thread, time, rest) else some (other, time', thread :: others)
      | some time, none => some (thread, time, rest)
      | none, some (other, time', others) => some (other, time', thread :: others)
      | none, none => none

/-- The state that a thread goes on from. -/
def resumed (machine : Machine) (thread : Thread) (time : Nat) : Machine :=
  { machine with
    system := ⟨{ machine.system.world with clock := max time thread.clock }, thread.process⟩
    shell := thread.shell
    waiting := thread.waiting }

/-- Note that something has happened. -/
def noteEvent (machine : Machine) : Machine :=
  { machine with
    system := { machine.system with
      world := { machine.system.world with events := machine.system.world.events + 1 } } }

/-- Note that a process has ended. -/
def noteEnd (id : Nat) (ending : Ending) (machine : Machine) : Machine :=
  noteEvent { machine with
    endings := (id, machine.system.world.clock, ending) :: machine.endings
    live := removeKey id machine.live
    sent := machine.sent.filter fun entry => entry.1 != id }

/-- The pipes that a process may write to. -/
def writtenPipes (world : World) (process : Process) : List Nat :=
  process.descriptors.filterMap fun (_, id) =>
    match world.openFiles[id]? with
    | some { channel := .pipe pipe, writes := true, .. } => some pipe
    | _ => none

/-- A thread at the point where its run has paused. -/
def paused (id : Nat) (machine : Machine) (wake? : Option Nat)
    (onward : Machine → Course Ending) : Thread :=
  ⟨id, machine.system.process, machine.shell, machine.waiting, machine.system.world.clock, wake?,
    machine.system.world.events, onward⟩

/-- A thread for a process that was just started. -/
def started (begin : Standing → Command → Run Ending) (machine : Machine) (process : Process)
    (shell : Session) (standing : Standing) (command : Command) : Thread :=
  let clock := machine.system.world.clock
  ⟨process.id, process, shell, [], clock, some clock, machine.system.world.events,
    begin standing command⟩

/-- The signal that ends a thread at once: one that was sent to the process that it began as,
which waits for another and does not answer it. -/
def fatal? (machine : Machine) (thread : Thread) : Option Nat :=
  match thread.waiting.lookup thread.id with
  | none => none
  | some traps =>
      (machine.sent.find? fun (id, signal) =>
        id == thread.id && !harmlessSignals.contains signal &&
          (harshSignals.contains signal || (traps.lookup signal).isNone)).map Prod.snd

/-- End the threads that signals end at once. -/
def endFatal (machine : Machine) (threads : List Thread) : Machine × List Thread :=
  threads.foldr (fun thread (machine, kept) =>
    match fatal? machine thread with
    | some signal => (noteEnd thread.id (.signal signal) machine, kept)
    | none => (machine, thread :: kept)) (machine, [])

/-- The time behind which nobody waits for a process any more. -/
def timeLimit : Nat := 10000000000

/-- Let threads go on until none of them can. -/
def drive (begin : Standing → Command → Run Ending) :
    Nat → Machine → List Thread → Machine
  | 0, machine, _ => machine
  | fuel + 1, machine, threads =>
      let (machine, threads) := endFatal machine threads
      match next? machine threads with
      | none => machine
      | some (thread, time, others) =>
          if timeLimit < time then machine
          else
            match thread.onward (resumed machine thread time) with
            | .ended result machine =>
                let ending := match result with
                  | .ok ending => ending
                  | .error (.killed signal) => .signal signal
                  | .error _ => .status 2
                drive begin fuel (noteEnd thread.id ending machine) others
            | .paused (.sleep wake) machine onward =>
                drive begin fuel machine
                  (others ++ [paused thread.id machine (some wake) onward])
            | .paused .rest machine onward =>
                drive begin fuel machine (others ++ [paused thread.id machine none onward])
            | .paused (.start process shell standing command) machine onward =>
                let child := started begin machine process shell standing command
                let parent := paused thread.id machine (some machine.system.world.clock) onward
                let live := (process.id, writtenPipes machine.system.world process) :: machine.live
                drive begin fuel { machine with live := live } (parent :: others ++ [child])

/-- Run something as the first process, and all that it starts, to the end. -/
def run (begin : Standing → Command → Run Ending) (first : Run Ending) (machine : Machine) :
    Ending × Machine :=
  let id := machine.system.process.id
  let thread : Thread := paused id machine (some 0) first
  let machine := drive begin 1000000000000 { machine with live := [(id, [])] } [thread]
  (((machine.endings.lookup id).map Prod.snd).getD (.signal 9), machine)

end Schedule

end Reroute.Shell

import Reroute.Shell.Builtin.Jobs
import Reroute.Shell.Builtin.Lookup
import Reroute.Shell.Redirections

/-!
The processes of a shell: texts of commands that are run line by line, the actions for signals,
the end of a shell, and children that run in place of their parent or beside it.
-/
namespace Reroute.Shell

/-- The runs of commands that stand in others. -/
abbrev Below := Standing → Command → Run Unit

namespace Evaluation

open Machine

/-- Set the status. -/
def setStatus (status : Nat) : Run Unit :=
  change fun shell => { shell with status := status }

/-- Note the line that complaints are about. -/
def setLine (line : Nat) : Run Unit :=
  change fun shell => { shell with line := line }

/-! ### Texts of commands -/

/-- Run the commands of a reading line by line, with the status of the last one so far.  What a
line defines counts for the reading of the next one. -/
def runLines (below : Below) (standing : Standing) : Nat → Reading → Nat → Run Nat
  | 0, _, status => pure status
  | fuel + 1, reading, status => do
      let shell ← getShell
      let reading :=
        { reading with
          aliases := shell.aliases
          documents := []
          nextDocument := shell.nextDocument }
      match Reader.line?.run reading with
      | .error error => do
          setLine error.line
          abort ("Syntax error: ".toList ++ error.reason)
      | .ok (none, _) => pure status
      | .ok (some command, reading) => do
          change fun shell =>
            { shell with
              documents := reading.documents ++ shell.documents
              nextDocument := reading.nextDocument }
          let isLast := reading.repeated && reading.last = .finish
          below { standing with exits := standing.exits && isLast } command
          let shell ← getShell
          let status := if command.isNothing then status else shell.status
          if shell.skip != .nothing then pure status
          else runLines below standing fuel reading status

/-- Run a text of commands.  The result is the status of the last one. -/
def runText (below : Below) (standing : Standing) (text : Text) : Run Nat := do
  let shell ← getShell
  runLines below standing patience (Reader.begin text shell.aliases shell.nextDocument) 0

/-! ### Signals -/

/-- Run the actions of signals in their order.  What is left when commands are skipped waits. -/
def answerEach (below : Below) (status : Nat) : List Nat → Run Unit
  | [] => pure ()
  | signal :: rest => do
      let shell ← getShell
      if shell.skip != .nothing then pure ()
      else if !shell.caught.contains signal then answerEach below status rest
      else
        change fun shell =>
          { shell with caught := shell.caught.filter fun other => other != signal }
        match shell.traps.lookup signal with
        | none => answerEach below status rest
        | some action => do
            let _ ← runText below {} action
            if (← getShell).skip != .function then setStatus status
            answerEach below status rest

/-- Run the actions of the signals that were caught.  They leave the status as it was, unless one
of them leaves a function with a status of its own. -/
def answerSignals (below : Below) : Run Unit := do
  receiveSent
  let shell ← getShell
  if shell.caught.isEmpty then pure ()
  else
    let status := shell.savedStatus.getD shell.status
    change fun shell => { shell with savedStatus := some status }
    answerEach below status (shell.caught.mergeSort fun a b => a ≤ b)
    change fun after => { after with savedStatus := shell.savedStatus }

/-! ### The end of a shell -/

/-- Forget what the shell at work was about, when a wish to end or the end of a text of commands
may have told a status. -/
def forgetPlans (isExit : Bool) : Run Unit :=
  change fun shell =>
    { shell with
      status :=
        if isExit || shell.skip = .text then shell.savedStatus.getD shell.status
        else shell.status
      savedStatus := none
      skip := .nothing
      loops := 0 }

/-- End the shell at work behind a run of it.  What it has noted for its end runs first. -/
def endShell (below : Below) (result : Except Interrupt Unit) : Run Ending := do
  match result with
  | .error (.killed signal) => pure (.signal signal)
  | .error (.replaced status) => pure (.status status)
  | _ => do
      match result with
      | .error .exit => forgetPlans true
      | .error _ => forgetPlans false
      | .ok () => pure ()
      let shell ← getShell
      match shell.traps.lookup 0 with
      | some (c :: action) => do
          change fun shell =>
            { shell with
              traps := removeKey 0 shell.traps
              savedStatus := some shell.status
              skip := .nothing }
          match ← Run.attempt (runText below {} (c :: action)) with
          | .error (.killed signal) => pure (.signal signal)
          | .error (.replaced status) => pure (.status status)
          | .error .exit => finish true
          | .error _ => finish false
          | .ok _ => do
              change fun shell => { shell with skip := .text }
              finish false
      | _ => finish false
where
  /-- Write out what is left, and tell the status. -/
  finish (isExit : Bool) : Run Ending := do
    forgetPlans isExit
    match ← Run.attempt flush with
    | .error (.killed signal) => pure (.signal signal)
    | _ => pure (.status ((← getShell).status % 256))

/-! ### Children -/

/-- What a signal does to a child: it is answered as to the parent only where it is not listened
to. -/
def unanswered (traps : List (Nat × Text)) : List (Nat × Text) :=
  traps.filter fun entry => entry.2.isEmpty

/-- A shell as its child begins. -/
def childShell (shell : Session) : Session :=
  { shell with
    isChild := true
    traps := unanswered shell.traps
    caught := []
    savedStatus := none
    buffer := [] }

/-- Whether some signal is answered by an action. -/
def hasActions (shell : Session) : Bool :=
  shell.traps.any fun entry => !entry.2.isEmpty

/-- The process of a child, with a number of its own. -/
def newProcess : Run Process := do
  let system ← getSystem
  changeSystem fun system =>
    { system with world := { system.world with nextProcess := system.world.nextProcess + 1 } }
  pure { system.process with id := system.world.nextProcess, parent := system.process.id }

/-- Run a child in place of the shell at work, and wait for it. -/
def inChild (run : Run Ending) : Run Ending := do
  flush
  yield
  let process ← newProcess
  let before : Machine ← get
  set { before with
    system := { before.system with process := process }
    shell := childShell before.shell
    waiting := (before.system.process.id, before.shell.traps) :: before.waiting }
  let ending ← run
  modify fun after =>
    { after with
      system := { after.system with process := before.system.process }
      shell := before.shell
      waiting := before.waiting }
  receiveSent
  if before.shell.traps.any fun entry => entry.1 == 17 then receive 17
  pure ending

/-- Run commands as a child of the shell at work. -/
def inSubshell (below : Below) (run : Run Unit) : Run Ending :=
  inChild do endShell below (← Run.attempt run)

/-- Take the status of a child that has ended, and tell the signal that has ended it. -/
def takeEnding (ending : Ending) : Run Unit := do
  match ending with
  | .signal signal =>
      let text := signalDescription signal
      if !text.isEmpty then complainRaw (text.toList ++ ['\n'])
  | _ => pure ()
  setStatus ending.code

/-- Let a process start beside the shell at work. -/
def start (process : Process) (standing : Standing) (command : Command) : Run Unit := do
  let shell ← getShell
  pause (.start process (childShell shell) standing command)

/-- Wait until processes have ended. -/
def awaitProcesses (processes : List Nat) : Nat → Run Unit
  | 0 => pure ()
  | fuel + 1 => do
      let machine : Machine ← get
      if processes.all fun process => (machine.endings.lookup process).isSome then pure ()
      else do
        rest
        awaitProcesses processes fuel

/-- Wait until nobody writes to a pipe any more. -/
def awaitEnd (pipe : Nat) : Nat → Run Unit
  | 0 => pure ()
  | fuel + 1 => do
      let machine : Machine ← get
      if machine.isWritten pipe then do
        rest
        awaitEnd pipe fuel
      else pure ()

/-- The output of a command that runs as a child.  Whatever the child starts may write to it. -/
def outputOf (below : Below) (command : Command) : Run Text := do
  let (system, pipe) := (← getSystem).addPipe []
  changeSystem fun _ => system
  let ending ← inSubshell below do
    let (system, id) := (← getSystem).addOpen ⟨.pipe pipe, 0, false, true, false⟩
    changeSystem fun _ => system.connect 1 id
    below { exits := true } command
  awaitEnd pipe patience
  let status := (← getShell).status
  takeEnding ending
  change fun shell => { shell with outputStatus := shell.status, status := status }
  let text := ((← getSystem).world.pipes[pipe]?.map Pipe.text).getD []
  changeSystem fun system =>
    { system with
      world := { system.world with pipes := system.world.pipes.setIfInBounds pipe {} } }
  pure text

/-- Start the processes of a pipeline, each of which reads what the one in front of it writes.
The result tells their numbers. -/
def startParts (standing : Standing) (process : Process) (input? : Option Nat) :
    List Command → Run (List Nat)
  | [] => pure []
  | part :: rest => do
      let connected (process : Process) (descriptor : Nat) (id? : Option Nat) : Process :=
        match id? with
        | some id => { process with descriptors := replaceKey descriptor id process.descriptors }
        | none => process
      if rest.isEmpty then do
        start (connected process 0 input?) standing part
        pure [process.id]
      else do
        let following := { (← newProcess) with parent := process.parent }
        let (system, pipe) := (← getSystem).addPipe [] (some following.id)
        let (system, output) := system.addOpen ⟨.pipe pipe, 0, false, true, false⟩
        let (system, input) := system.addOpen ⟨.pipe pipe, 0, true, false, false⟩
        changeSystem fun _ => system
        start (connected (connected process 0 input?) 1 (some output)) standing part
        pure (process.id :: (← startParts standing following (some input) rest))

/-- Start commands in the background as a job. -/
def startJob (parts : List Command) : Run Unit := do
  flush
  let (system, id) := (← getSystem).addOpen ⟨.device .null, 0, true, false, false⟩
  changeSystem fun _ => system
  let parent := system.process.id
  let process ← newProcess
  let processes ← startParts { exits := true } process (some id) parts
  modify fun machine =>
    let own := machine.jobs.filter fun job => job.parent == parent
    let isFree (number : Nat) : Bool := !own.any fun job => job.number == number
    let forgotten := own.filter fun job => job.awaited && (job.ending? machine).isSome
    let number := match forgotten.map Job.number with
      | first :: rest => rest.foldl min first
      | [] => ((List.range (own.length + 1)).find? fun i => isFree (i + 1)).getD 0 + 1
    let others := machine.jobs.filter fun job => job.parent != parent || job.number != number
    { machine with jobs := others ++ [⟨processes, parent, number, false⟩] }
  change fun shell => { shell with lastJob := processes.getLast? }

/-- Run a pipeline, and take the status of its last command. -/
def runPipeline (standing : Standing) (parts : List Command) : Run Unit := do
  flush
  let process ← newProcess
  let processes ← startParts { standing with exits := true } process none parts
  awaitProcesses processes patience
  let machine : Machine ← get
  if (← getShell).traps.any fun entry => entry.1 == 17 then receive 17
  let ending? := processes.getLast?.bind fun process => machine.endings.lookup process
  takeEnding ((ending?.map Prod.snd).getD (.status 0))

end Evaluation

end Reroute.Shell

import Reroute.Action
import Reroute.Shell.Schedule

/-!
The shell as the executor of commands.  A command that does not succeed fails with a message
that tells how it ended and what it complained about.
-/
namespace Reroute.Shell

/-- The wording of an ending. -/
def Ending.message : Ending → Text
  | .status code => "exit status: ".toList ++ Numeral.render code
  | .signal number =>
      let name := match signalNames[number - 1]? with
        | some name => " (SIG".toList ++ name.toList ++ [')']
        | none => []
      "signal: ".toList ++ Numeral.render number ++ name

/-- The variables that a script is given. -/
def environment : List (Text × Text) :=
  [("HOME", "/root"), ("PATH", String.ofList Builtin.standardPath)].map fun (name, value) =>
    (name.toList, value.toList)

/-- Run a script to its end: how it ended, and what it has written. -/
def runScript (script : Text) : Ending × CommandOutput :=
  let call : Call := ⟨"sh".toList, ["-c".toList, script], environment⟩
  let machine : Machine := { system := .start, shell := { name := call.name } }
  let below := Evaluation.executeAt Evaluation.depthLimit
  let (ending, machine) :=
    Schedule.run Evaluation.process (Evaluation.runShell below call) machine
  (ending, ⟨Text.toBytes (machine.system.output 1), Text.toBytes (machine.system.output 2)⟩)

/-- The number of bytes that an argument has to stay below. -/
def argumentLimit : Nat := 131072

/-- Why a script cannot be handed to a shell at all. -/
def refusal? (script : Text) : Option Text :=
  if script.contains '\x00' then some "nul byte found in provided data".toList
  else if argumentLimit ≤ script.length then some "Argument list too long (os error 7)".toList
  else none

/-- Run a command, which fails unless it ends with the status zero. -/
def execute : Executor := fun command =>
  let script := Text.encoded command
  match refusal? script with
  | some reason =>
      .error ("failed to launch \x60".toList ++ command ++ "\x60: ".toList ++ reason)
  | none =>
      let (ending, output) := runScript script
      if ending = .status 0 then .ok output
      else
        .error ('\x60' :: command ++ "\x60 failed with ".toList ++ ending.message ++
          ": ".toList ++ Text.trim (Utf8.decodeLossy output.stderr))

end Reroute.Shell

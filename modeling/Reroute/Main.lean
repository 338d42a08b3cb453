import Reroute.Report
import Reroute.Shell.Executor

/-!
The command line: it reads the settings and the rules file, warns of what cannot be used,
and then tells for one URL a line what the rules make of it.
-/
namespace Reroute.CommandLine

/-- The bytes of a file, if it can be read. -/
def contents (path : Text) : IO (Except ReadError (List UInt8)) := do
  try
    pure (.ok (← IO.FS.readBinFile (String.ofList path)).toList)
  catch _ => pure (.error .notFound)

/-- Write a line. -/
def say (line : Text) : IO Unit := IO.println (String.ofList line)

/-- Write a line about something wrong. -/
def complain (line : Text) : IO Unit := IO.eprintln (String.ofList line)

/-- Answer the URLs of the input, one a line. -/
def answerAll (ruleset : Ruleset) (settings : Settings) : IO Unit := do
  let input ← IO.getStdin
  repeat do
    let line ← input.getLine
    if line.isEmpty then break
    let outcome := Report.outcome ruleset settings Shell.execute (Text.trim line.toList)
    say (Report.ending outcome)

/-- Run with the arguments of a command line. -/
def run (arguments : Arguments) : IO UInt32 := do
  let file ← match arguments.config with
    | some path => contents path
    | none => pure (.error .notFound)
  match Settings.load (fun _ => file) arguments with
  | .error error => do
      complain (Report.settingsError error)
      pure 1
  | .ok settings => do
      let rules := (textOf (← contents settings.rulesFile)).toOption.getD []
      for warning in RulesFile.warnings rules do
        complain (Report.warning warning)
      answerAll (RulesFile.parse rules) settings
      pure 0

end Reroute.CommandLine

/-- Read the command line, and run with it or say why not. -/
def main (arguments : List String) : IO UInt32 := do
  match Reroute.Arguments.parse (arguments.map String.toList) with
  | .error error => do
      Reroute.CommandLine.complain (Reroute.Report.argumentError error)
      pure 1
  | .ok arguments => Reroute.CommandLine.run arguments

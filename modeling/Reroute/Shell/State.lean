import Reroute.Shell.Fields
import Reroute.Shell.Integer
import Reroute.Shell.System

/-!
The state of a running shell: variables, parameters, functions, options, traps, and what it is
about to skip, with the signals that it may be sent.
-/
namespace Reroute.Shell

/-- A variable.  It may be known without having a value. -/
structure Variable where
  value? : Option Text
  isExported : Bool := false
  isConstant : Bool := false

/-- What is skipped: loops, rounds of loops, or what is left of a function or of a text of
commands.  A function that is left with a status is told from one that is left without. -/
inductive Skip where
  | nothing
  | loops
  | rounds
  | function
  | text
deriving Repr, DecidableEq

/-- What a function gives back when it is left: a variable, or the options. -/
inductive Kept where
  | variable (name : Text) (v? : Option Variable)
  | options (letters : List Char)

/-- The state of a shell.  It knows what functions give back, the line that complaints are about
and the builtin that makes them, the path by which it has come to where it is, and the programs
that it has found. -/
structure Session where
  name : Text
  named : List (Text × Variable) := []
  parameters : List Text := []
  functions : List (Text × Command) := []
  aliases : List (Text × Text) := []
  options : List Char := []
  traps : List (Nat × Text) := []
  caught : List Nat := []
  status : Nat := 0
  outputStatus : Nat := 0
  savedStatus : Option Nat := none
  skip : Skip := .nothing
  skipCount : Nat := 0
  loops : Nat := 0
  scopes : List (List Kept) := []
  line : Nat := 1
  builtin? : Option Text := none
  optionIndex : Nat := 1
  optionOffset : Option Nat := none
  documents : List (Nat × Word) := []
  nextDocument : Nat := 0
  main : Nat := 4712
  lastJob : Option Nat := none
  depth : Nat := 0
  isChild : Bool := false
  whereabouts : Text := Disk.workPath
  tracked : List (Text × Text) := []
  buffer : List Text := []
  failedOutput : Bool := false

namespace Session

/-- A complaint: the name of the script, the line, and the builtin that complains. -/
def complaint (shell : Session) (text : Text) : Text :=
  let builtin := match shell.builtin? with
    | some name => name ++ ": ".toList
    | none => []
  shell.name ++ ": ".toList ++ Numeral.render shell.line ++ ": ".toList ++ builtin ++ text ++ ['\n']

/-! ### Variables -/

/-- Whether an option is set. -/
def has (shell : Session) (option : Char) : Bool := shell.options.contains option

/-- The value of a variable. -/
def value? (shell : Session) (name : Text) : Option Text :=
  (shell.named.lookup name).bind Variable.value?

/-- The characters that fields are split at. -/
def separators (shell : Session) : Text :=
  (shell.value? "IFS".toList).getD [' ', '\t', '\n']

/-- Put a variable in place. -/
def put (shell : Session) (name : Text) (v : Variable) : Session :=
  let named :=
    if (shell.named.lookup name).isSome then
      shell.named.map fun entry => if entry.1 == name then (name, v) else entry
    else shell.named ++ [(name, v)]
  let shell := { shell with named := named }
  if name = "PATH".toList then { shell with tracked := [] }
  else if name = "OPTIND".toList then
    let index := (v.value?.bind Integer.count?).getD 0
    { shell with optionIndex := if index = 0 then 1 else index, optionOffset := none }
  else shell

/-- The variables that a shell always knows, also without a value. -/
def standingVariables : List Text :=
  ["IFS", "MAIL", "MAILPATH", "OPTIND", "PATH", "PS1", "PS2", "PS4"].map String.toList

/-- Whether a function has made a variable its own. -/
def isLocal (shell : Session) (name : Text) : Bool :=
  shell.scopes.any fun scope => scope.any fun
    | .variable other _ => other == name
    | .options _ => false

/-- Forget a variable. -/
def forget (shell : Session) (name : Text) : Session :=
  { shell with named := shell.named.filter fun entry => entry.1 != name }

/-- Take the value of a variable away.  Whether it is handed on stays known of those that the
shell always knows, and of those that a function has made its own. -/
def unset (shell : Session) (name : Text) : Session :=
  match shell.named.lookup name with
  | none => shell
  | some v =>
      if standingVariables.contains name || shell.isLocal name then
        shell.put name { v with value? := none }
      else shell.forget name

/-- Give a variable back what it was. -/
def restore (shell : Session) (name : Text) (v? : Option Variable) : Session :=
  match v? with
  | some v => shell.put name v
  | none => shell.forget name

/-- The place of a name in a table of the shell. -/
def placeOf (rows : Nat) (name : Text) : Nat :=
  (16 * (name.headD '\x00').toNat + name.foldl (fun total c => total + c.toNat) 0) % rows

/-- The variables that are handed on to programs. -/
def environment (shell : Session) : List (Text × Text) :=
  let exported := shell.named.filterMap fun (name, v) =>
    if v.isExported then v.value?.map fun value => (name, value) else none
  exported.mergeSort fun a b => placeOf 39 a.1 ≤ placeOf 39 b.1

end Session

/-! ### Signals -/

/-- The names of the signals, from the first.  Some have none. -/
def signalNames : List String :=
  ["HUP", "INT", "QUIT", "ILL", "TRAP", "ABRT", "BUS", "FPE", "KILL", "USR1", "SEGV", "USR2",
    "PIPE", "ALRM", "TERM", "16", "CHLD", "CONT", "STOP", "TSTP", "TTIN", "TTOU", "URG", "XCPU",
    "XFSZ", "VTALRM", "PROF", "WINCH", "IO", "PWR", "SYS", "32", "33", "RTMIN", "RTMIN+1",
    "RTMIN+2", "RTMIN+3", "RTMIN+4", "RTMIN+5", "RTMIN+6", "RTMIN+7", "RTMIN+8", "RTMIN+9",
    "RTMIN+10", "RTMIN+11", "RTMIN+12", "RTMIN+13", "RTMIN+14", "RTMIN+15", "RTMAX-14",
    "RTMAX-13", "RTMAX-12", "RTMAX-11", "RTMAX-10", "RTMAX-9", "RTMAX-8", "RTMAX-7", "RTMAX-6",
    "RTMAX-5", "RTMAX-4", "RTMAX-3", "RTMAX-2", "RTMAX-1", "RTMAX"]

/-- The name of a signal. -/
def signalName (number : Nat) : Text :=
  if number = 0 then ['0'] else ((signalNames[number - 1]?).getD "").toList

/-- What a shell says of a command that a signal has ended.  It says nothing of an
interruption or a broken pipe. -/
def signalDescription (signal : Nat) : String :=
  match signal with
  | 1 => "Hangup"
  | 3 => "Quit"
  | 4 => "Illegal instruction"
  | 5 => "Trace/breakpoint trap"
  | 6 => "Aborted"
  | 7 => "Bus error"
  | 8 => "Floating point exception"
  | 9 => "Killed"
  | 10 => "User defined signal 1"
  | 11 => "Segmentation fault"
  | 12 => "User defined signal 2"
  | 14 => "Alarm clock"
  | 15 => "Terminated"
  | 16 => "Stack fault"
  | 24 => "CPU time limit exceeded"
  | 25 => "File size limit exceeded"
  | 26 => "Virtual timer expired"
  | 27 => "Profiling timer expired"
  | 29 => "I/O possible"
  | 30 => "Power failure"
  | 31 => "Bad system call"
  | _ => ""

/-- The signals that cannot be caught. -/
def harshSignals : List Nat := [9, 19]

/-- The signals that do nothing unless they are caught.  Those that stop a process count here
as well: nothing would let it go on. -/
def harmlessSignals : List Nat := [0, 17, 18, 23, 28]

/-- The signal of a name, or of a number that there may be. -/
def signal? (s : Text) : Option Nat :=
  if !s.isEmpty && s.all Char.isDigit then
    let n := Numeral.value s
    if n ≤ 64 then some n else none
  else if Text.sameIgnoringCase s "EXIT".toList then some 0
  else (signalNames.findIdx? fun name => Text.sameIgnoringCase name.toList s).map fun i => i + 1

end Reroute.Shell

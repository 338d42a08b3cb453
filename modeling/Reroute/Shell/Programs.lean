import Reroute.Shell.Builtin.Variables
import Reroute.Shell.Processes
import Reroute.Shell.Utility.Ends
import Reroute.Shell.Utility.Stream
import Reroute.Shell.Utility.Words

/-!
The programs that a shell runs: utilities, scripts, and other shells.  A program runs as a child,
or in place of a shell that has nothing else to do.
-/
namespace Reroute.Shell.Evaluation

open Machine

/-! ### Other shells -/

/-- What the arguments of a shell tell: its options, the text of its commands, whether they are
read from the input, its name, and the parameters. -/
structure Invocation where
  options : List Char
  command? : Option Text
  script? : Option Text
  name : Text
  parameters : List Text

/-- The options that letters set, with the arguments behind them. -/
def invocationLetters (value : Bool) : Text → List Text → List Char → Bool →
    Except Text (List Text × List Char × Bool)
  | [], rest, options, command => .ok (rest, options, command)
  | 'c' :: more, rest, options, command =>
      invocationLetters value more rest options (command || value)
  | 'l' :: more, rest, options, command => invocationLetters value more rest options command
  | 'o' :: more, name :: rest, options, command =>
      match Builtin.optionNames.lookup (String.ofList name) with
      | some option => invocationLetters value more rest (put option options) command
      | none => .error ("Illegal option -o ".toList ++ name)
  | 'o' :: more, [], options, command => invocationLetters value more [] options command
  | c :: more, rest, options, command =>
      if c.isDigit || !Builtin.optionNames.any (fun entry => entry.2 == c) then
        .error ("Illegal option -".toList ++ [c])
      else invocationLetters value more rest (put c options) command
where
  /-- Set an option or take it back. -/
  put (option : Char) (options : List Char) : List Char :=
    let others := options.filter fun c => c != option
    if value then option :: others else others

/-- Read the options in front of the other arguments.  The fuel is the number of arguments. -/
def invocationOptions : Nat → List Text → List Char → Bool →
    Except Text (List Text × List Char × Bool)
  | fuel + 1, ('-' :: letters) :: rest, options, command =>
      if letters.isEmpty || letters = ['-'] then .ok (rest, options, command)
      else do
        let (rest, options, command) ← invocationLetters true letters rest options command
        invocationOptions fuel rest options command
  | fuel + 1, ('+' :: letters) :: rest, options, command => do
      let (rest, options, command) ← invocationLetters false letters rest options command
      invocationOptions fuel rest options command
  | _, rest, options, command => .ok (rest, options, command)

/-- Read the arguments of a shell. -/
def invocation? (call : Call) : Except Text Invocation := do
  let (rest, options, command) ←
    invocationOptions call.arguments.length call.arguments [] false
  match command, rest with
  | true, [] => throw "-c requires an argument".toList
  | true, [text] => pure ⟨options, some text, none, call.name, []⟩
  | true, text :: name :: parameters => pure ⟨options, some text, none, name, parameters⟩
  | false, [] => pure ⟨'s' :: options.filter (fun c => c != 's'), none, none, call.name, []⟩
  | false, script :: parameters =>
      if options.contains 's' then pure ⟨options, none, none, call.name, script :: parameters⟩
      else pure ⟨options, none, some script, script, parameters⟩

/-- The variables of a shell that begins with an environment. -/
def firstVariables (environment : List (Text × Text)) (parent : Nat) (whereabouts : Text) :
    List (Text × Variable) :=
  let given := (environment.filter fun entry => isName entry.1).map fun (name, value) =>
    (name, Variable.mk (some value) true false)
  let own : List (String × Text) :=
    [("PATH", Builtin.standardPath), ("PS1", "# ".toList), ("PS2", "> ".toList),
      ("PS4", "+ ".toList)]
  let fixed : List (String × Text) :=
    [("IFS", [' ', '\t', '\n']), ("OPTIND", ['1']), ("PPID", Numeral.render parent)]
  let missing := own.filter fun entry => !given.any fun other => other.1 == entry.1.toList
  let kept := given.filter fun entry =>
    entry.1 != "PWD".toList && !fixed.any fun other => other.1.toList == entry.1
  kept ++ missing.map (fun (name, value) => (name.toList, ⟨some value, false, false⟩)) ++
    fixed.map (fun (name, value) =>
      let exported := given.any fun other => other.1 == name.toList
      (name.toList, ⟨some value, exported, false⟩)) ++
    [("PWD".toList, ⟨some whereabouts, true, false⟩)]

/-- The path by which a shell has come to where it is: the one that it was told, if that leads
there. -/
def firstWhereabouts (environment : List (Text × Text)) (system : System) : Text :=
  let here := system.process.here
  match environment.lookup "PWD".toList with
  | some ('/' :: path) =>
      if (system.disk.find here ('/' :: path)).toOption == some here then '/' :: path
      else system.disk.pathOf here
  | _ => system.disk.pathOf here

/-- A shell as it begins. -/
def firstShell (invocation : Invocation) (environment : List (Text × Text)) (system : System)
    (depth : Nat) : Session :=
  let whereabouts := firstWhereabouts environment system
  { name := invocation.name
    named := firstVariables environment system.process.parent whereabouts
    parameters := invocation.parameters
    options := invocation.options
    main := system.process.id
    depth := depth
    whereabouts := whereabouts }

/-- Run the text of a shell, which tells its commands as it reads them if it is asked to. -/
def runScript (below : Below) (standing : Standing) (text : Text) : Run Unit := do
  if (← getShell).has 'v' && !standing.exits then complainRaw text
  let _ ← runText below standing text

/-- Run a shell in place of the program at work. -/
def runShell (below : Below) (call : Call) : Run Ending := do
  let before ← getShell
  let machine : Machine ← get
  let begin (invocation : Invocation) : Session :=
    { firstShell invocation call.environment machine.system before.depth with
      traps := unanswered before.traps }
  let fail (text : Text) : Run Ending := do
    complainRaw (call.name ++ ": 0: ".toList ++ text ++ ['\n'])
    pure (.status 2)
  let run (invocation : Invocation) (standing : Standing) (text : Text) : Run Ending := do
    change fun _ => begin invocation
    let ending ← endShell below (← Run.attempt (runScript below standing text))
    change fun _ => before
    pure ending
  match invocation? call with
  | .error reason => fail reason
  | .ok invocation =>
      match invocation.command?, invocation.script? with
      | some text, _ =>
          if invocation.options.contains 's' then
            run invocation {} (text ++ '\n' :: (← Utility.input 0).toOption.getD [])
          else run invocation { exits := true } text
      | none, some path =>
          match ← Utility.fileText path with
          | .ok text => run invocation {} text
          | .error .isDirectory => pure (.status 0)
          | .error error => fail (Redirections.openComplaint false path error)
      | none, none => do run invocation {} ((← Utility.input 0).toOption.getD [])

/-! ### Programs -/

/-- The interpreter that the first line of a script names, with its argument. -/
def interpreter? (contents : Text) : Option (List Text) := do
  let line := (← Text.after? ['#', '!'] contents).takeWhile fun c => c != '\n'
  let isSpace (c : Char) : Bool := c == ' ' || c == '\t'
  let trimmed := (((line.dropWhile isSpace).reverse).dropWhile isSpace).reverse
  let program := trimmed.takeWhile fun c => !isSpace c
  let argument := (trimmed.drop program.length).dropWhile isSpace
  if program.isEmpty then none
  else pure (if argument.isEmpty then [program] else [program, argument])

/-- What a file that is run turns out to be: a program of the system, a script for an
interpreter, or a script for a shell. -/
inductive Executable where
  | utility (name : Text)
  | interpreted (program : List Text)
  | script

/-- What a file is that is run, or why it cannot be run. -/
def executable? (system : System) (path : Text) : Except SystemError Executable := do
  match system.disk.find system.process.here path with
  | .error error => throw (.path error)
  | .ok id =>
      match system.disk.node? id with
      | some (.file contents mode _) =>
          if mode &&& 0o111 = 0 then throw .denied
          else
            match Text.after? Disk.programMark contents, interpreter? contents with
            | some name, _ => pure (.utility name)
            | none, some program => pure (.interpreted program)
            | none, none =>
                if (contents.takeWhile fun c => c != '\n').contains '\x00' then
                  throw .wrongFormat
                else pure .script
      | _ => throw .denied

/-- The utilities. -/
def utilities : List (String × Utility) :=
  Utility.streamUtilities ++ Utility.wordUtilities ++ Utility.endUtilities

/-- The names of shells. -/
def shellNames : List Text := ["sh", "dash", "bash"].map String.toList

/-- Run what a path leads to in place of the process at work, if that is possible.  The fuel
bounds the number of interpreters that interpret each other. -/
def runFile (below : Below) : Nat → Text → Call → Run (Except SystemError Ending)
  | 0, _, _ => pure (.error (.path .tooManyLinks))
  | fuel + 1, path, call => do
      match executable? (← getSystem) path with
      | .error error => pure (.error error)
      | .ok (.interpreted program) =>
          let name := program.headD []
          runFile below fuel name
            { call with name := name, arguments := program.tail ++ path :: call.arguments }
      | .ok .script => do
          pure (.ok (← runShell below { call with arguments := path :: call.arguments }))
      | .ok (.utility name) =>
          if shellNames.contains name then do pure (.ok (← runShell below call))
          else
            match utilities.lookup (String.ofList name) with
            | some utility => do pure (.ok (← utility call))
            | none => pure (.error (.path .missing))

/-- Run something as a program: an interrupt is its end. -/
def asProgram (run : Run (Except SystemError Ending)) : Run (Except SystemError Ending) := do
  let before ← getShell
  change fun shell => { shell with traps := unanswered shell.traps, caught := [] }
  let result ← Run.attempt run
  change fun _ => before
  match result with
  | .ok result => pure result
  | .error (.killed signal) => pure (.ok (.signal signal))
  | .error (.replaced status) => pure (.ok (.status status))
  | .error _ => pure (.ok (.status 2))

/-- The status and the complaint for a program that cannot be run. -/
def failure (name : Text) (error : SystemError) : Nat × Text :=
  match error with
  | .path .missing | .path .notDirectory => (127, name ++ ": not found".toList)
  | .path error => (127, name ++ ": ".toList ++ (SystemError.path error).message)
  | error => (126, name ++ ": ".toList ++ error.message)

/-- Run a program in place of the shell at work, which complains if that is impossible. -/
def runProgram (below : Below) (path name : Text) (arguments : List Text) : Run Ending := do
  let environment := (← getShell).environment
  match ← asProgram (runFile below 5 path ⟨name, arguments, environment⟩) with
  | .ok ending => pure ending
  | .error error => do
      let (status, text) := failure name error
      warn text
      pure (.status status)

end Reroute.Shell.Evaluation

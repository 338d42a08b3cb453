import Reroute.Shell.Builtin.Flow
import Reroute.Shell.Builtin.Place
import Reroute.Shell.Builtin.Signals
import Reroute.Shell.Programs

/-!
The running of commands.  Every function here is given the runs of the commands one level
deeper; the levels are tied together at the end.
-/
namespace Reroute.Shell.Evaluation

open Machine

/-! ### The words of simple commands -/

/-- What the words of a simple command have come to: its fields, whether its builtin is a special
one, whether assignments in front of it are for it alone, whether it takes the place of the
shell, whether its arguments are like assignments, and how its name is looked up. -/
structure Called where
  fields : List Text
  special? : Option Bool := none
  isLocal : Bool := false
  replaces : Bool := false
  assigns : Bool := false
  functions : Bool := true
  standard : Bool := false

/-- Expand words until there is a field. -/
def firstFields (run : Command → Run Text) : List Word → Run (List Text × List Word)
  | [] => pure ([], [])
  | word :: rest => do
      match ← Expansion.fields run word with
      | [] => firstFields run rest
      | fields => pure (fields, rest)

/-- Look for the command behind `command`.  The fields that were passed come in reverse, in front
of those that were not.  The result tells the fields, what is left of the words, and, if there is
a command to be called, whether it is looked for on the standard path. -/
def behindCommand (run : Command → Run Text) :
    Nat → List Text → List Text → List Word → Bool → Run (List Text × List Word × Option Bool)
  | 0, passed, ahead, rest, _ => pure (passed.reverse ++ ahead, rest, none)
  | fuel + 1, passed, ahead, rest, standard => do
      let (ahead, rest) ← if ahead.isEmpty then firstFields run rest else pure (ahead, rest)
      match ahead with
      | [] => pure (passed.reverse, rest, none)
      | first :: others =>
          if first = ['-', '-'] then do
            let (others, rest) ←
              if others.isEmpty then firstFields run rest else pure (others, rest)
            if others.isEmpty then pure ((first :: passed).reverse, rest, none)
            else pure (others, rest, some standard)
          else
            match first with
            | '-' :: c :: letters =>
                if (c :: letters).all fun c => c == 'p' then
                  behindCommand run fuel (first :: passed) others rest true
                else pure (passed.reverse ++ ahead, rest, none)
            | _ => pure (ahead, rest, some standard)

/-- Find out what is called, as far as that has to be known before all words are expanded. -/
def resolve (run : Command → Run Text) : Nat → Called → List Word → Run (Called × List Word)
  | 0, called, rest => pure (called, rest)
  | fuel + 1, called, rest => do
      let called := { called with isLocal := true }
      let name := called.fields.headD []
      let shell ← getShell
      let isFunction := called.functions && (shell.functions.lookup name).isSome
      match if isFunction || name.contains '/' then none else Builtin.kind? name with
      | none => pure (called, rest)
      | some kind => do
          let special := called.special?.getD kind.special
          let called :=
            { called with
              special? := some special
              isLocal := !special
              replaces := name == "exec".toList
              assigns := kind.assigns }
          if name != "command".toList then pure (called, rest)
          else
            let (fields, rest, found) ←
              behindCommand run 1000 [name] called.fields.tail rest false
            let called := { called with fields := fields }
            match found with
            | none => pure (called, rest)
            | some standard =>
                resolve run fuel { called with functions := false, standard := standard } rest

/-- Expand the words behind the first ones. -/
def otherFields (run : Command → Run Text) (assigns : Bool) : List Word → Run (List Text)
  | [] => pure []
  | word :: rest => do
      let first ←
        if assigns && word.assignment?.isSome then do
          pure [← Expansion.text run { home := true, assigns := true } word]
        else Expansion.fields run word
      pure (first ++ (← otherFields run assigns rest))

/-- Expand the words of a simple command. -/
def calledBy (run : Command → Run Text) (words : List Word) : Run Called := do
  match ← firstFields run words with
  | ([], _) => pure { fields := [] }
  | (fields, rest) => do
      let (called, rest) ← resolve run 1000 { fields := fields } rest
      pure { called with fields := called.fields ++ (← otherFields run called.assigns rest) }

/-! ### Variables of commands -/

/-- Give back what the innermost scopes have kept, down to a number of them. -/
def leaveScopes (depth : Nat) : Run Unit :=
  change fun shell =>
    let count := shell.scopes.length - depth
    let shell' := (shell.scopes.take count).flatten.foldl (fun shell kept =>
      match kept with
      | .variable name v? => shell.restore name v?
      | .options letters => { shell with options := letters }) shell
    { shell' with scopes := shell.scopes.drop count }

/-- Assign the values in front of a command, and tell the assignments. -/
def assignAll (run : Command → Run Text) (called : Called) : List Word → Run (List Text)
  | [] => pure []
  | word :: rest => do
      let text ← Expansion.text run { home := true, assigns := true } word
      if called.isLocal then Builtin.makeLocal true text
      else
        match Text.cut '=' text with
        | some (name, value) => assign name value (called.replaces && 1 < called.fields.length)
        | none => pure ()
      pure (text :: (← assignAll run called rest))

/-- Tell a command before it runs, where the errors led before its redirections. -/
def trace (run : Command → Run Text) (before : List (Nat × Nat)) (texts : List Text) :
    Run Unit := do
  let shell ← getShell
  if shell.has 'x' then
    let word := Reader.promptWord ((shell.value? "PS4".toList).getD [])
    let start ← Expansion.text run { quoted := true } word
    let now := (← getSystem).process.descriptors
    Redirections.restore [.closed 2] before
    complainRaw (start ++ Text.joinWith [' '] texts ++ ['\n'])
    Redirections.restore [.closed 2] now

/-! ### Builtins that run commands -/

/-- Run the arguments as a text of commands. -/
def evaluateText (below : Below) (standing : Standing) : Builtin := fun arguments =>
  if arguments.isEmpty then pure 0
  else runText below { tested := standing.tested } (Text.joinWith [' '] arguments)

/-- The file of a name for `.`, which is looked for on the path unless it has a slash. -/
def sourceFile (name : Text) : Run Text := do
  if name.contains '/' then pure name
  else
    let shell ← getShell
    let system ← getSystem
    let isFile (path : Text) : Bool :=
      match system.nodeAt? path with
      | some (.file ..) => true
      | _ => false
    let paths := Builtin.pathsOf ((shell.value? "PATH".toList).getD []) name
    match paths.find? isFile with
    | some path => pure path
    | none => abort (name ++ ": not found".toList)

/-- Run the commands of a file. -/
def source (below : Below) : Builtin := fun arguments => do
  match ← Builtin.operands arguments with
  | [] => pure 0
  | name :: _ => do
      let path ← sourceFile name
      match ← Utility.fileText path with
      | .error .isDirectory => pure 0
      | .error error => abort (Redirections.openComplaint false path error)
      | .ok text => do
          change fun shell => { shell with builtin? := some path }
          let status ← runText below {} text
          change fun shell =>
            { shell with
              skip := if shell.skip = .function || shell.skip = .text then .nothing
                else shell.skip }
          pure status

/-- Let a program take the place of the shell. -/
def replace (below : Below) : Builtin := fun arguments => do
  match ← Builtin.operands arguments with
  | [] => pure 0
  | name :: rest => do
      let shell ← getShell
      let system ← getSystem
      let found := if name.contains '/' then .program name else
        Builtin.searched system ((shell.value? "PATH".toList).getD []) name
      match found with
      | .program path =>
          match executable? system path with
          | .error error => do
              let (status, text) := failure name error
              warn text
              setStatus status
              throw .finished
          | .ok _ => do
              flush
              match ← runProgram below path name rest with
              | .status status => throw (.replaced status)
              | .signal signal => throw (.killed signal)
      | .missing denied => do
          warn (Builtin.missingText name denied)
          setStatus (if denied then 126 else 127)
          throw .finished
      | _ => pure 0

/-- Wait until all jobs have ended. -/
def waitAll : Nat → Run Nat
  | 0 => pure 0
  | fuel + 1 => do
      let machine : Machine ← get
      let jobs ← Builtin.ownJobs
      if jobs.all fun job => (job.ending? machine).isSome then do
        modify fun machine =>
          { machine with
            jobs := machine.jobs.map fun job =>
              if job.parent == machine.system.process.id then { job with awaited := true } else job }
        pure 0
      else
        match (← getShell).caught.getLast? with
        | some signal => pure (128 + signal)
        | none => do
            rest
            waitAll fuel

/-- Wait until a job has ended, and tell the signal that has ended it. -/
def waitFor (job : Job) (waited : Bool) : Nat → Run (Nat × Bool)
  | 0 => pure (0, true)
  | fuel + 1 => do
      match job.ending? (← get) with
      | some ending => do
          match waited, ending with
          | true, .signal signal =>
              let text := signalDescription signal
              if !text.isEmpty then complainRaw (text.toList ++ ['\n'])
          | _, _ => pure ()
          modify fun machine =>
            { machine with
              jobs := machine.jobs.map fun other =>
                if other.process == job.process then { other with awaited := true } else other }
          pure (ending.code, true)
      | none =>
          match (← getShell).caught.getLast? with
          | some signal => pure (128 + signal, false)
          | none => do
              rest
              waitFor job true fuel

/-- Wait for jobs in their order, with the status of the last one. -/
def waitEach (status : Nat) : List Text → Run Nat
  | [] => pure status
  | name :: rest => do
      let job? ← match name with
        | '%' :: _ => do pure (some (← Builtin.jobOf (some name)))
        | _ => do
            let process ← Builtin.count name
            pure ((← Builtin.ownJobs).find? fun job => job.process == process)
      match job? with
      | none => waitEach status rest
      | some job => do
          match ← waitFor job false patience with
          | (status, true) => waitEach status rest
          | (status, false) => pure status

/-- Wait for jobs. -/
def wait : Builtin := fun arguments => do
  match ← Builtin.operands arguments with
  | [] => waitAll patience
  | names => waitEach 127 names

/-- The builtins. -/
def builtins (below : Below) (standing : Standing) : List (String × Builtin) :=
  [(".", source below), (":", Builtin.nothing), ("[", Builtin.bracketed),
    ("alias", Builtin.aliases), ("bg", Builtin.goOn), ("break", Builtin.skipLoops .loops),
    ("cd", Builtin.changeDirectory), ("chdir", Builtin.changeDirectory),
    ("command", Builtin.command), ("continue", Builtin.skipLoops .rounds),
    ("echo", Builtin.echo), ("eval", evaluateText below standing), ("exec", replace below),
    ("exit", Builtin.exit), ("export", Builtin.exports), ("false", Builtin.failure),
    ("fg", Builtin.goOn), ("getopts", Builtin.readOptions), ("hash", Builtin.hash),
    ("jobs", Builtin.tellJobs), ("kill", Builtin.kill), ("local", Builtin.locals),
    ("printf", Builtin.printf), ("pwd", Builtin.tellDirectory), ("read", Builtin.read),
    ("readonly", Builtin.constants), ("return", Builtin.leave), ("set", Builtin.set),
    ("shift", Builtin.shift), ("test", Builtin.test), ("times", Builtin.times),
    ("trap", Builtin.trap), ("true", Builtin.nothing), ("type", Builtin.type),
    ("ulimit", Builtin.limit), ("umask", Builtin.mask), ("unalias", Builtin.forgetAliases),
    ("unset", Builtin.forget), ("wait", wait)]

/-- Run a builtin: what it has put into its output is written behind it. -/
def runBuiltin (name : Text) (builtin : Run Nat) : Run Unit := do
  let before := (← getShell).builtin?
  change fun shell => { shell with builtin? := some name }
  let result ← Run.attempt do
    let status ← builtin
    flush
    let failed := (← getShell).failedOutput
    if failed then warn (name ++ ": I/O error".toList)
    setStatus (status ||| if failed then 1 else 0)
  change fun shell => { shell with builtin? := before, failedOutput := false }
  match result with
  | .ok () => pure ()
  | .error interrupt => throw interrupt

/-! ### Simple commands -/

/-- How deep functions may call each other. -/
def callLimit : Nat := 1000

/-- Call a function. -/
def callFunction (below : Below) (standing : Standing) (body : Command)
    (arguments : List Text) : Run Unit := do
  let before ← getShell
  if callLimit ≤ before.depth then
    abort ("Maximum function recursion depth (".toList ++ Numeral.render callLimit ++
      ") reached".toList)
  change fun shell =>
    { shell with
      parameters := arguments
      optionIndex := 1
      optionOffset := none
      loops := 0
      depth := shell.depth + 1 }
  let result ← Run.attempt (below { tested := standing.tested } body)
  change fun shell =>
    { shell with
      parameters := before.parameters
      optionIndex := before.optionIndex
      optionOffset := before.optionOffset
      loops := before.loops
      depth := before.depth
      skip := if shell.skip = .function || shell.skip = .text then .nothing else shell.skip }
  match result with
  | .ok () => pure ()
  | .error interrupt => throw interrupt

/-- Run a program, in place of the shell if nothing is left to be done behind it. -/
def callProgram (below : Below) (standing : Standing) (path name : Text)
    (arguments : List Text) : Run Unit := do
  if standing.exits && !hasActions (← getShell) then do
    flush
    yield
    match ← runProgram below path name arguments with
    | .status status => throw (.replaced status)
    | .signal signal => throw (.killed signal)
  else takeEnding (← inChild (runProgram below path name arguments))

/-- Run the command that fields name.  The result tells whether it was run. -/
def call (below : Below) (standing : Standing) (called : Called) : Run Unit := do
  match called.fields with
  | [] => setStatus (← getShell).outputStatus
  | name :: arguments => do
      let shell ← getShell
      let path? := if called.standard then some Builtin.standardPath else none
      match Builtin.meaning shell (← getSystem) called.functions path? name with
      | .function body => callFunction below standing body arguments
      | .builtin _ => do
          let builtin :=
            ((builtins below standing).lookup (String.ofList name)).getD Builtin.nothing
          match ← Run.attempt (runBuiltin name (builtin arguments)) with
          | .ok () => pure ()
          | .error interrupt =>
              if interrupt = .error && called.special? != some true then pure ()
              else throw interrupt
      | .program path => do
          if !name.contains '/' && path?.isNone then Builtin.track name path
          callProgram below standing path name arguments
      | .missing denied => do
          warn (Builtin.missingText name denied)
          setStatus 127

/-- Run a simple command. -/
def runSimple (below : Below) (standing : Standing) (line : Nat)
    (assignments words : List Word) (redirections : List Redirection) : Run Unit := do
  let run := outputOf below
  setLine line
  change fun shell => { shell with outputStatus := 0 }
  let called ← calledBy run words
  let depth := (← getShell).scopes.length
  if called.isLocal then change fun shell => { shell with scopes := [] :: shell.scopes }
  let targets ← redirections.mapM (Redirections.target run)
  let before := (← getSystem).process.descriptors
  let result ← Run.attempt do
    if ← Redirections.applyAll run targets then do
      let assigned ← assignAll run called assignments
      trace run before (assigned ++ called.fields)
      call below standing called
    else do
      setStatus 2
      if called.special? = some true then throw .error
  if !(called.replaces && result.toOption.isSome) then Redirections.restore targets before
  match result with
  | .ok () => leaveScopes depth
  | .error interrupt => throw interrupt

/-! ### Compound commands -/

/-- Find out what is skipped behind the body of a loop.  The result tells what the loop is to do
about it. -/
def skipLoop : Run Skip := do
  let shell ← getShell
  match shell.skip with
  | .loops | .rounds =>
      let count := shell.skipCount - 1
      change fun shell =>
        { shell with
          skipCount := count
          skip := if count = 0 then .nothing else shell.skip }
      pure (if count = 0 then shell.skip else .loops)
  | skip => pure skip

/-- Run the rounds of a loop, with the status of the last one. -/
def rounds (below : Below) (standing : Standing) (whileTrue : Bool) (test body : Command) :
    Nat → Nat → Run Nat
  | 0, status => pure status
  | fuel + 1, status => do
      below { tested := true } test
      let tested := (← getShell).status
      match ← skipLoop with
      | .rounds => rounds below standing whileTrue test body fuel status
      | .nothing =>
          if (tested == 0) != whileTrue then pure status
          else do
            below standing body
            let status := (← getShell).status
            match ← skipLoop with
            | .nothing | .rounds => rounds below standing whileTrue test body fuel status
            | _ => pure status
      | .function => pure tested
      | _ => pure status

/-- Run a loop through fields, with the status of the last round. -/
def roundsThrough (below : Below) (standing : Standing) (name : Text) (body : Command) :
    Nat → List Text → Run Nat
  | status, [] => pure status
  | _, value :: rest => do
      assign name value
      below standing body
      let status := (← getShell).status
      match ← skipLoop with
      | .nothing | .rounds => roundsThrough below standing name body status rest
      | _ => pure status

/-- Run a loop, and count it as long as it runs. -/
def asLoop (run : Run Nat) : Run Unit := do
  change fun shell => { shell with loops := shell.loops + 1 }
  let status ← run
  change fun shell => { shell with loops := shell.loops - 1 }
  setStatus status

/-- The first clause of a choice one of whose patterns a text fits. -/
def clauseFor (run : Command → Run Text) (text : Text) :
    List (List Word × Command) → Run Command
  | [] => pure .nothing
  | (patterns, body) :: rest => do
      if ← anyFits patterns then pure body else clauseFor run text rest
where
  /-- Whether a text fits one of some patterns. -/
  anyFits : List Word → Run Bool
    | [] => pure false
    | pattern :: rest => do
        if Pattern.fits (← Expansion.pattern run pattern) text then pure true else anyFits rest

/-- Run a group of commands with other descriptors. -/
def runRedirected (below : Below) (standing : Standing) (body : Command)
    (redirections : List Redirection) : Run Bool := do
  let run := outputOf below
  let targets ← redirections.mapM (Redirections.target run)
  let before := (← getSystem).process.descriptors
  let result ← Run.attempt do
    let opened ← Redirections.applyAll run targets
    if opened then below { tested := standing.tested } body else setStatus 2
    pure opened
  Redirections.restore targets before
  match result with
  | .ok opened => pure opened
  | .error interrupt => throw interrupt

/-- Run a group of commands in a subshell, or in the shell itself if nothing is left to be done
behind them. -/
def runSubshell (below : Below) (standing : Standing) (body : Command)
    (redirections : List Redirection) : Run Unit := do
  let run := outputOf below
  let targets ← redirections.mapM (Redirections.target run)
  let inside : Run Unit := do
    targets.forM (Redirections.apply run)
    below { standing with exits := true } body
  if standing.exits && !hasActions (← getShell) then inside
  else takeEnding (← inSubshell below inside)

/-- Start a group of commands in the background. -/
def runBackground (below : Below) (line : Nat) (body : Command)
    (redirections : List Redirection) : Run Unit := do
  let targets ← redirections.mapM (Redirections.target (outputOf below))
  startJob [.subshell line body (targets.map Target.literal)]
  setStatus 0

/-- Run commands one behind the other, of which only the last one may end the shell. -/
def runEach (below : Below) (standing : Standing) : List Command → Run Unit
  | [] => pure ()
  | [last] => below standing last
  | first :: rest => do
      below { tested := standing.tested } first
      if (← getShell).skip = .nothing then runEach below standing rest

/-- The commands of a sequence, in front of others. -/
def inSequence : Command → List Command → List Command
  | .sequence first second, rest => inSequence first (inSequence second rest)
  | command, rest => command :: rest

/-- Run a command that is not empty.  The result tells whether a failure of it may end the
shell. -/
def runCommand (below : Below) (standing : Standing) : Command → Run Bool
  | .nothing => pure false
  | .simple line assignments words redirections => do
      runSimple below standing line assignments words redirections
      pure true
  | .redirected line body redirections => do
      setLine line
      pure !(← runRedirected below standing body redirections)
  | .subshell line body redirections => do
      setLine line
      runSubshell below standing body redirections
      pure true
  | .background line body redirections => do
      setLine line
      runBackground below line body redirections
      pure true
  | .pipeline waits parts => do
      if waits then runPipeline standing parts
      else do
        startJob parts
        setStatus 0
      pure true
  | .negated body => do
      below { tested := true } body
      setStatus (if (← getShell).status = 0 then 1 else 0)
      pure false
  | .both first second => do
      below { tested := true } first
      let shell ← getShell
      if shell.status = 0 && shell.skip = .nothing then below standing second
      pure false
  | .either first second => do
      below { tested := true } first
      let shell ← getShell
      if shell.status != 0 && shell.skip = .nothing then below standing second
      pure false
  | .sequence first second => do
      runEach below standing (inSequence first (inSequence second []))
      pure false
  | .conditional test yes no => do
      below { tested := true } test
      let shell ← getShell
      if shell.skip = .nothing then
        if shell.status = 0 then below standing yes
        else if no.isNothing then setStatus 0
        else below standing no
      pure false
  | .loop whileTrue test body => do
      asLoop (rounds below { tested := standing.tested } whileTrue test body patience 0)
      pure false
  | .forEach line name words body => do
      setLine line
      let fields ← Expansion.allFields (outputOf below) words
      asLoop (roundsThrough below { tested := standing.tested } name body 0 fields)
      pure false
  | .choice line word clauses => do
      setLine line
      let run := outputOf below
      let text ← Expansion.text run { home := true } word
      let body ← clauseFor run text clauses
      if body.isNothing then setStatus 0 else below standing body
      pure false
  | .definition _ name body => do
      change fun shell => { shell with functions := replaceKey name body shell.functions }
      setStatus 0
      pure false

/-- Run a command.  Signals are answered in front of it and behind it, and a failure that nobody
looks at may end the shell. -/
def execute (below : Below) (standing : Standing) (command : Command) : Run Unit := do
  let shell ← getShell
  let mayEnd ←
    if shell.has 'n' || command.isNothing then pure false
    else do
      answerSignals below
      runCommand below standing command
  let failed := (← getShell).status != 0
  answerSignals below
  if mayEnd && !standing.tested && failed && (← getShell).has 'e' then throw .finished
  if standing.exits then throw .finished

/-- How deep commands may stand in each other and call each other. -/
def depthLimit : Nat := 20000

/-- Run commands down to a depth, behind which there is no room for another. -/
def executeAt : Nat → Below
  | 0, _, _ => throw (.killed 11)
  | depth + 1, standing, command => execute (executeAt depth) standing command

/-- Run the commands of a process to its end. -/
def process (standing : Standing) (command : Command) : Run Ending := do
  let below := executeAt depthLimit
  endShell below (← Run.attempt (below standing command))

end Reroute.Shell.Evaluation

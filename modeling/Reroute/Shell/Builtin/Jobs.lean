import Reroute.Shell.Builtin.Basic

/-!
The builtins for jobs.  A job is known by its number behind a percent sign; the one that was
started last is the current one.  Jobs are not controlled from a terminal here.
-/
namespace Reroute.Shell.Builtin

open Machine

/-- The jobs of the shell at work, the current one first. -/
def ownJobs : Run (List Job) := do
  let machine ← get
  pure (machine.jobs.filter fun job => job.parent == machine.system.process.id).reverse

/-- The job that a name stands for among those of a shell, or why there is none.  The commands of
jobs are not kept, so only an empty beginning is that of one. -/
def namedJob (jobs : List Job) (name : Text) : Except Text Job :=
  let known (found? : Option Job) (reason : Text) : Except Text Job :=
    match found? with
    | some job => .ok job
    | none => .error reason
  let missing := "No such job: ".toList ++ name
  let which := name.drop 1
  if name.head? != some '%' then .error missing
  else if which.isEmpty || which = ['%'] || which = ['+'] then
    known jobs.head? "No current job".toList
  else if which = ['-'] then known jobs.tail.head? "No previous job".toList
  else if which.all Char.isDigit then
    known (jobs.find? fun job => job.number == Numeral.value which) missing
  else if which = ['?'] && 1 < jobs.length then .error (name ++ ": ambiguous".toList)
  else if which = ['?'] then known jobs.head? missing
  else .error missing

/-- The job that a name stands for, or the current one. -/
def jobOf (name? : Option Text) : Run Job := do
  match namedJob (← ownJobs) (name?.getD ['%']) with
  | .ok job => pure job
  | .error reason => abort reason

/-- Forget a job. -/
def forgetJob (job : Job) : Run Unit :=
  modify fun machine =>
    { machine with
      jobs := machine.jobs.filter fun other => other.process != job.process }

/-- How a job that has ended is told. -/
def endingText : Ending → Text
  | .status 0 => "Done".toList
  | .status code => "Done(".toList ++ Numeral.render code ++ [')']
  | .signal number => (signalDescription number).toList

/-- Tell a job, with the numbers of its processes if they are asked for.  One that has ended is
forgotten then. -/
def tellJob (withNumbers : Bool) (job : Job) : Run Unit := do
  let jobs ← ownJobs
  let ending? := job.ending? (← get)
  let isSame (other? : Option Job) : Bool := (other?.map Job.process) == some job.process
  let mark := if isSame jobs.head? then '+' else if isSame jobs.tail.head? then '-' else ' '
  let start := '[' :: Numeral.render job.number ++ [']', ' ', mark, ' ']
  let first := if withNumbers then Numeral.render (job.processes.headD 0) ++ [' '] else []
  let state := match ending? with
    | some ending => endingText ending
    | none => "Running".toList
  let filled (line : Text) (used : Nat) : Text :=
    line ++ List.replicate (max 1 (33 - used)) ' '
  let line := start ++ first ++ state
  if withNumbers then
    let rest := job.processes.tail.map fun process =>
      let own := List.replicate start.length ' ' ++ Numeral.render process ++ [' ']
      filled (" |\n".toList ++ own) own.length
    emitLine (filled line line.length ++ rest.flatten)
  else
    let rest := job.processes.tail.map fun _ => " | ".toList
    emitLine (filled line line.length ++ rest.flatten)
  if ending?.isSome then forgetJob job

/-- Tell jobs. -/
def tellJobs : Builtin := fun arguments => do
  let (found, names) ← options "lp" arguments
  let jobs ← ownJobs
  let told ← if names.isEmpty then pure jobs else names.mapM fun name => jobOf (some name)
  for job in told do
    match found.getLast? with
    | some ('p', _) => emitLine (Numeral.render (job.processes.headD 0))
    | some _ => tellJob true job
    | none => tellJob false job
  pure 0

/-- Let a job go on, which needs a terminal. -/
def goOn : Builtin := fun arguments => do
  let name? := (← operands arguments).head?
  let _ ← jobOf name?
  abort ("job ".toList ++ name?.getD "(null)".toList ++
    " not created under job control".toList)

end Reroute.Shell.Builtin

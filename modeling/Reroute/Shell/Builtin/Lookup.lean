import Reroute.Shell.Builtin.Basic
import Reroute.Shell.Reader

/-!
What the name of a command stands for: a function, a builtin, or a program in one of the
directories of a path.  The programs that were found are kept in mind until the path changes.
-/
namespace Reroute.Shell

/-- What a builtin is: one of the special ones, whose mistakes end a script and behind which
assignments stay, and one whose arguments are like assignments. -/
structure Kind where
  special : Bool := false
  assigns : Bool := false

/-- What the name of a command stands for.  Of what is missing it is told whether there was
something that cannot be run. -/
inductive Meaning where
  | function (body : Command)
  | builtin (kind : Kind)
  | program (path : Text)
  | missing (denied : Bool)

namespace Builtin

open Machine

/-- The builtins by their names. -/
def kinds : List (String × Kind) :=
  let ofKind (kind : Kind) (names : List String) : List (String × Kind) :=
    names.map fun name => (name, kind)
  ofKind { special := true } [".", ":", "break", "continue", "eval", "exec", "exit", "return",
      "set", "shift", "times", "trap", "unset"] ++
    ofKind { special := true, assigns := true } ["export", "local", "readonly"] ++
    ofKind { assigns := true } ["alias"] ++
    ofKind {} ["[", "bg", "cd", "chdir", "command", "echo", "false", "fg", "getopts", "hash",
      "jobs", "kill", "printf", "pwd", "read", "test", "true", "type", "ulimit", "umask",
      "unalias", "wait"]

/-- The builtin of a name. -/
def kind? (name : Text) : Option Kind := kinds.lookup (String.ofList name)

/-- The path that every system knows. -/
def standardPath : Text := "/usr/local/sbin:/usr/local/bin:/usr/sbin:/usr/bin:/sbin:/bin".toList

/-- The paths of a name in the directories of a path. -/
def pathsOf (path name : Text) : List Text :=
  (path.splitOn ':').map fun directory =>
    if directory.isEmpty then name else directory ++ '/' :: name

/-- Whether a node is a file that may be run. -/
def isRunnable : Option Node → Bool
  | some (.file _ mode _) => mode &&& 0o111 != 0
  | _ => false

/-- Look for a program in the directories of a path. -/
def searched (system : System) (path name : Text) : Meaning :=
  let found := (pathsOf path name).filter fun one => (system.nodeAt? one).isSome
  match found.find? fun one => isRunnable (system.nodeAt? one) with
  | some one => .program one
  | none => .missing !found.isEmpty

/-- What the name of a command stands for.  A name with a slash is a path. -/
def meaning (shell : Session) (system : System) (functions : Bool) (path? : Option Text)
    (name : Text) : Meaning :=
  if name.contains '/' then .program name
  else
    match if functions then shell.functions.lookup name else none, kind? name with
    | some f, _ => .function f
    | none, some kind => .builtin kind
    | none, none =>
        searched system (path?.getD ((shell.value? "PATH".toList).getD [])) name

/-- Keep in mind where a program was found. -/
def track (name path : Text) : Run Unit :=
  change fun shell =>
    { shell with
      tracked :=
        if (shell.tracked.lookup name).isSome then
          shell.tracked.map fun entry => if entry.1 == name then (name, path) else entry
        else shell.tracked ++ [(name, path)] }

/-- The complaint about a name that stands for nothing. -/
def missingText (name : Text) (denied : Bool) : Text :=
  name ++ (if denied then ": Permission denied" else ": not found").toList

/-- Tell what a name stands for, in words or so that a shell reads it back.  The result tells
whether it stands for anything. -/
def describe (verbose : Bool) (path? : Option Text) (name : Text) : Run Bool := do
  let shell ← getShell
  let system ← getSystem
  let tell (words brief : Text) : Run Bool := do
    emitLine (if verbose then name ++ words else brief)
    pure true
  if reservedWords.contains (String.ofList name) then tell " is a shell keyword".toList name
  else
    match shell.aliases.lookup name with
    | some value =>
        tell (" is an alias for ".toList ++ value)
          ("alias ".toList ++ name ++ '=' :: singleQuoted value)
    | none =>
        match meaning shell system true path? name with
        | .function _ => tell " is a shell function".toList name
        | .builtin kind =>
            tell (if kind.special then " is a special shell builtin" else
              " is a shell builtin").toList name
        | .program path =>
            let tracked := path?.isNone && (shell.tracked.lookup name).isSome
            if (system.nodeAt? path).isSome then
              tell ((if tracked then " is a tracked alias for " else " is ").toList ++ path) path
            else do
              if verbose then emitLine (name ++ ": not found".toList)
              pure false
        | .missing _ => do
            if verbose then emitLine (name ++ ": not found".toList)
            pure false

/-- Tell what names stand for. -/
def type : Builtin := fun arguments => do
  let missing ← arguments.filterM fun name => do pure !(← describe true none name)
  pure (if missing.isEmpty then 0 else 127)

/-- Tell what a command stands for.  Without such a wish there is nothing to do. -/
def command : Builtin := fun arguments => do
  let (found, rest) ← options "pvV" arguments
  let letters := found.map Prod.fst
  let path? := if letters.contains 'p' then some standardPath else none
  match rest with
  | name :: _ =>
      if letters.contains 'v' || letters.contains 'V' then
        pure (if ← describe (letters.contains 'V') path? name then 0 else 127)
      else pure 0
  | [] => pure 0

/-- Tell or forget the programs that were found, or look for others. -/
def hash : Builtin := fun arguments => do
  let (found, names) ← options "r" arguments
  if !found.isEmpty then
    change fun shell => { shell with tracked := [] }
    pure 0
  else if names.isEmpty then
    let tracked := (← getShell).tracked.mergeSort fun a b =>
      Session.placeOf 31 a.1 ≤ Session.placeOf 31 b.1
    for (_, path) in tracked do emitLine path
    pure 0
  else
    let missing ← names.filterM fun name => do
      match meaning (← getShell) (← getSystem) true none name with
      | .program path => do
          if !name.contains '/' then track name path
          pure false
      | .missing denied => do
          warn (missingText name denied)
          pure true
      | _ => pure false
    pure (if missing.isEmpty then 0 else 1)

end Builtin

end Reroute.Shell

import Reroute.Engine

/-!
Watching a rules file.  A check compares the modification time with the one remembered from
the last check, remembers the new one before anything else, and reloads when they differ.  A
reload that fails is not tried again until the time moves once more.
-/
namespace Reroute

/-- The rules file as it is found: its contents and its modification time. -/
structure RulesFileState where
  contents : List UInt8
  modified : Nat
deriving Repr, DecidableEq

/-- What a watcher remembers: the modification time it saw last, none for a missing file. -/
structure Watcher where
  lastModified : Option Nat
deriving Repr, DecidableEq

namespace Watcher

/-- The modification time of a file that may be missing. -/
def modifiedOf (file : Option RulesFileState) : Option Nat :=
  file.map RulesFileState.modified

/-- Begin to watch: a file loaded just before is not reloaded by the first check. -/
def start (file : Option RulesFileState) : Watcher :=
  ⟨modifiedOf file⟩

/-- Remember the modification time, and say whether it has moved. -/
def observe (watcher : Watcher) (file : Option RulesFileState) : Watcher × Bool :=
  (⟨modifiedOf file⟩, modifiedOf file != watcher.lastModified)

/-- The result of a check: the engine after it, and whether it was reloaded. -/
structure Checked where
  watcher : Watcher
  engine : Engine
  result : Except RulesFile.LoadError Bool

/-- Check the file once. -/
def check (watcher : Watcher) (engine : Engine) (file : Option RulesFileState) : Checked :=
  match watcher.observe file with
  | (watcher, false) => ⟨watcher, engine, .ok false⟩
  | (watcher, true) =>
      match engine.reload (file.map RulesFileState.contents) with
      | .ok engine => ⟨watcher, engine, .ok true⟩
      | .error error => ⟨watcher, engine, .error error⟩

end Watcher

end Reroute

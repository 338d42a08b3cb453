import Reroute.Shell.Expansion

/-!
Redirections: the opening of files in place of the descriptors of a command.  The paths of all
redirections are expanded before the first one is opened.
-/
namespace Reroute.Shell

/-- A redirection whose word was expanded: of a descriptor to a file, to where another one leads,
to nowhere, or to text. -/
inductive Target where
  | file (descriptor : Nat) (opening : Opening) (path : Text)
  | copy (descriptor source : Nat)
  | closed (descriptor : Nat)
  | here (descriptor document : Nat)
deriving Repr, DecidableEq

/-- The descriptor that a redirection is about. -/
def Target.descriptor : Target → Nat
  | .file descriptor .. => descriptor
  | .copy descriptor _ => descriptor
  | .closed descriptor => descriptor
  | .here descriptor _ => descriptor

/-- A redirection as it stands in a script, so that it is expanded to the same once more. -/
def Target.literal : Target → Redirection
  | .file descriptor opening path => .file descriptor opening (path.map Piece.escaped)
  | .copy descriptor source => .copy descriptor ((Numeral.render source).map Piece.escaped)
  | .closed descriptor => .copy descriptor [.escaped '-']
  | .here descriptor document => .here descriptor document

namespace Redirections

open Machine

/-- Expand the word of a redirection. -/
def target (run : Command → Run Text) : Redirection → Run Target
  | .file descriptor opening path => do
      pure (.file descriptor opening (← Expansion.text run { home := true } path))
  | .here descriptor document => pure (.here descriptor document)
  | .copy descriptor source => do
      match ← Expansion.text run { home := true } source with
      | ['-'] => pure (.closed descriptor)
      | [c] =>
          if c.isDigit then pure (.copy descriptor (c.toNat - '0'.toNat))
          else abort "Syntax error: Bad fd number".toList
      | _ => abort "Syntax error: Bad fd number".toList

/-- The complaint about a file that cannot be opened. -/
def openComplaint (create : Bool) (path : Text) (error : SystemError) : Text :=
  let reason := match error with
    | .path .missing | .path .notDirectory =>
        (if create then "Directory nonexistent" else "No such file").toList
    | error => error.message
  (if create then "cannot create " else "cannot open ").toList ++ path ++ ": ".toList ++ reason

/-- How a file is opened.  Where files are to be kept, one that is there is not written over. -/
def access (keep : Bool) (node? : Option Node) : Opening → System.Access
  | .read => { reads := true }
  | .both => { reads := true, writes := true, creates := true }
  | .append => { writes := true, appends := true, creates := true }
  | .overwrite => { writes := true, creates := true, truncates := true }
  | .write =>
      let fresh := match node? with
        | some (.file ..) | none => keep
        | _ => false
      { writes := true, creates := true, truncates := true, fresh := fresh }

/-- Open what a redirection tells. -/
def apply (run : Command → Run Text) : Target → Run Unit
  | .file descriptor opening path => do
      let shell ← getShell
      let system ← getSystem
      let node? := system.nodeAt? path
      match system.openPath path (access (shell.has 'C') node? opening) with
      | .ok (system, id) => changeSystem fun _ => system.connect descriptor id
      | .error error => do
          -- What is no file is not written over, so it need not be kept.
          let opens := opening = .read || (opening = .write && shell.has 'C' && error = .isDirectory)
          abort (openComplaint (!opens) path error)
  | .copy descriptor source => do
      if source != descriptor then
        match (← getSystem).process.descriptors.lookup source with
        | some id => changeSystem fun system => system.connect descriptor id
        | none => abort (Numeral.render source ++ ": ".toList ++ SystemError.badDescriptor.message)
  | .closed descriptor => changeSystem fun system => system.close descriptor
  | .here descriptor document => do
      let word := ((← getShell).documents.lookup document).getD []
      let text ← Expansion.text run { quoted := true } word
      changeSystem fun system =>
        let (system, pipe) := system.addPipe text
        let (system, id) := system.addOpen ⟨.pipe pipe, 0, true, false, false⟩
        system.connect descriptor id

/-- Lead descriptors back to where they led before. -/
def restore (targets : List Target) (before : List (Nat × Nat)) : Run Unit :=
  for target in targets do
    changeSystem fun system =>
      match before.lookup target.descriptor with
      | some id => system.connect target.descriptor id
      | none => system.close target.descriptor

/-- Open what redirections tell, in their order.  The result tells whether that was possible. -/
def applyAll (run : Command → Run Text) (targets : List Target) : Run Bool := do
  match ← Run.attempt (targets.forM (apply run)) with
  | .ok () => pure true
  | .error .error => pure false
  | .error interrupt => throw interrupt

end Redirections

end Reroute.Shell

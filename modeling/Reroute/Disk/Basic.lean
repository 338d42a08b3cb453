import Reroute.Text.Utf8

/-!
Files in directories.  A disk is a row of nodes that are known by their numbers; a directory
gives names to some of them.  The node with the number zero is the directory that absolute
paths begin at.  Names and contents are bytes, one character for each.
-/
namespace Reroute

/-- What answers in place of a file. -/
inductive Device where
  | null
  | zero
  | full
  | random
  | unreachable
deriving Repr, DecidableEq

/-- What stands on a disk.  A directory knows the one that it stands in, and a file knows who
may do what with it and when it was last written. -/
inductive Node where
  | directory (parent : Nat) (entries : List (Text × Nat)) (mode : Nat)
  | file (contents : Text) (mode : Nat) (changed : Nat)
  | link (target : Text)
  | device (kind : Device)
deriving Repr

/-- All nodes, and the number of changes that there have been. -/
structure Disk where
  nodes : Array Node
  changes : Nat

/-- Why a path leads nowhere. -/
inductive PathError where
  | missing
  | notDirectory
  | nameTooLong
  | tooManyLinks
deriving Repr, DecidableEq

/-- Where a path leads: a name in a directory, and the node that has the name. -/
structure Place where
  directory : Nat
  name : Text
  node? : Option Nat

namespace Disk

/-- A disk with nothing but the directory that absolute paths begin at. -/
def empty : Disk := ⟨#[.directory 0 [] 0o755], 0⟩

/-- The greatest number of bytes in a name. -/
def maxName : Nat := 255

/-- The number of bytes that a path has to stay below. -/
def pathLimit : Nat := 4096

/-- The number of links that a path may lead over. -/
def maxLinks : Nat := 40

/-- The names in a path.  Two slashes count as one, and a slash at the end asks for a
directory, as a dot does. -/
def components (path : Text) : List Text :=
  let parts := (path.splitOn '/').filter fun part => !part.isEmpty
  if path.getLast? == some '/' then parts ++ [['.']] else parts

/-- The directory that a path begins at. -/
def origin (here : Nat) (path : Text) : Nat :=
  if path.head? == some '/' then 0 else here

/-- A node by its number. -/
def node? (disk : Disk) (id : Nat) : Option Node := disk.nodes[id]?

/-- Follow names from a directory.  Only the last name may be free, and a link behind it is
followed only if that is asked for. -/
def follow (disk : Disk) (last : Bool) (links here : Nat) (parts : List Text) :
    Except PathError Place :=
  match parts with
  | [] => .ok ⟨here, ['.'], some here⟩
  | part :: rest =>
      match disk.node? here with
      | some (.directory parent entries _) =>
          if part = ['.'] then follow disk last links here rest
          else if part = ['.', '.'] then follow disk last links parent rest
          else if maxName < part.length then .error .nameTooLong
          else
            match entries.lookup part with
            | none => if rest.isEmpty then .ok ⟨here, part, none⟩ else .error .missing
            | some id =>
                match disk.node? id with
                | some (.link target) =>
                    if rest.isEmpty && !last then .ok ⟨here, part, some id⟩
                    else
                      match links with
                      | 0 => .error .tooManyLinks
                      | left + 1 =>
                          follow disk last left (origin here target) (components target ++ rest)
                | _ =>
                    if rest.isEmpty then .ok ⟨here, part, some id⟩
                    else follow disk last links id rest
      | _ => .error .notDirectory
termination_by (links, parts.length)

/-- Where a path leads from a directory. -/
def place (disk : Disk) (here : Nat) (path : Text) (last : Bool := true) :
    Except PathError Place :=
  if path.isEmpty then .error .missing
  else if pathLimit ≤ path.length then .error .nameTooLong
  else disk.follow last maxLinks (origin here path) (components path)

/-- The number of the node that a path leads to. -/
def find (disk : Disk) (here : Nat) (path : Text) (last : Bool := true) :
    Except PathError Nat := do
  match (← disk.place here path last).node? with
  | some id => pure id
  | none => throw .missing

/-- The node that a path leads to. -/
def nodeAt? (disk : Disk) (here : Nat) (path : Text) (last : Bool := true) : Option Node :=
  (disk.find here path last).toOption.bind disk.node?

/-- Whether a path leads to a directory. -/
def isDirectory (disk : Disk) (here : Nat) (path : Text) : Bool :=
  match disk.nodeAt? here path with
  | some (.directory ..) => true
  | _ => false

/-- Put something else in the place of a node. -/
def setNode (disk : Disk) (id : Nat) (node : Node) : Disk :=
  ⟨disk.nodes.setIfInBounds id node, disk.changes + 1⟩

/-- Change the entries of a directory. -/
def changeEntries (disk : Disk) (directory : Nat)
    (change : List (Text × Nat) → List (Text × Nat)) : Disk :=
  match disk.node? directory with
  | some (.directory parent entries mode) =>
      disk.setNode directory (.directory parent (change entries) mode)
  | _ => disk

/-- Give a name in a directory to a node, and take it from the one that had it. -/
def enter (disk : Disk) (directory : Nat) (name : Text) (id : Nat) : Disk :=
  disk.changeEntries directory fun entries =>
    (entries.filter fun entry => entry.1 != name) ++ [(name, id)]

/-- Add a node under a name, and tell its number. -/
def add (disk : Disk) (directory : Nat) (name : Text) (node : Node) : Disk × Nat :=
  let id := disk.nodes.size
  (enter ⟨disk.nodes.push node, disk.changes + 1⟩ directory name id, id)

/-- The contents of a file, and nothing for anything else. -/
def contents (disk : Disk) (id : Nat) : Text :=
  match disk.node? id with
  | some (.file contents ..) => contents
  | _ => []

/-- Give a file other contents. -/
def putContents (disk : Disk) (id : Nat) (contents : Text) : Disk :=
  match disk.node? id with
  | some (.file _ mode _) => disk.setNode id (.file contents mode (disk.changes + 1))
  | _ => disk

/-- Give the rights of what a path leads to. -/
def setMode (disk : Disk) (here : Nat) (path : Text) (mode : Nat) : Disk :=
  match disk.find here path with
  | .error _ => disk
  | .ok id =>
      match disk.node? id with
      | some (.directory parent entries _) => disk.setNode id (.directory parent entries mode)
      | some (.file contents _ changed) => disk.setNode id (.file contents mode changed)
      | _ => disk

/-- The directory of given names below another, which is made where it is missing. -/
def makeDirectory (disk : Disk) (here : Nat) : List Text → Disk × Nat
  | [] => (disk, here)
  | name :: rest =>
      match disk.node? here with
      | some (.directory _ entries _) =>
          match entries.lookup name with
          | some id => makeDirectory disk id rest
          | none =>
              let (disk, id) := disk.add here name (.directory here [] 0o755)
              makeDirectory disk id rest
      | _ => (disk, here)

/-- Put a node at a path below a directory, with the directories that lead to it. -/
def put (disk : Disk) (here : Nat) (path : Text) (node : Node) : Disk :=
  let parts := components path
  let (disk, directory) := disk.makeDirectory (origin here path) parts.dropLast
  match parts.getLast? with
  | some name => (disk.add directory name node).1
  | none => disk

/-- The names that lead from the first directory to another. -/
def namesTo (disk : Disk) : Nat → Nat → List Text
  | 0, _ => []
  | depth + 1, id =>
      match disk.node? id with
      | some (.directory parent _ _) =>
          if parent = id then []
          else
            let name := match disk.node? parent with
              | some (.directory _ entries _) =>
                  ((entries.find? fun entry => entry.2 == id).map Prod.fst).getD []
              | _ => []
            disk.namesTo depth parent ++ [name]
      | _ => []

/-- The absolute path of a directory. -/
def pathOf (disk : Disk) (id : Nat) : Text :=
  '/' :: Text.joinWith ['/'] (disk.namesTo disk.nodes.size id)

end Disk

end Reroute

import Reroute.Disk.Standard

/-!
Paths, and reading the files below a directory of a plain system.
-/
namespace Reroute

namespace Path

/-- The components of a path.  Empty ones and single dots stand for nothing. -/
def components (path : Text) : List Text :=
  (path.splitOn '/').filter fun part => !part.isEmpty && part != ['.']

/-- The last component of a path, unless it leads upwards. -/
def fileName? (path : Text) : Option Text :=
  (components path).getLast?.filter fun name => name != ['.', '.']

/-- What stands behind the last dot of the last component, unless it begins with that dot. -/
def extension? (path : Text) : Option Text := do
  let name ← fileName? path
  let tail := name.reverse.takeWhile fun c => c != '.'
  if tail.length + 1 < name.length then some tail.reverse else none

end Path

/-- Why a file could not be read as text. -/
inductive ReadError where
  | notFound
  | isDirectory
  | notADirectory
  | invalidPath
  | nameTooLong
  | tooManyLinks
  | unreachable
  | invalidData
deriving Repr, DecidableEq

/-- A path that leads nowhere cannot be read. -/
def ReadError.ofPath : PathError → ReadError
  | .missing => .notFound
  | .notDirectory => .notADirectory
  | .nameTooLong => .nameTooLong
  | .tooManyLinks => .tooManyLinks

/-- The files below the directory to work in, by their paths from there. -/
structure Files where
  entries : List (Text × List UInt8)

namespace Files

/-- The disk of a plain system with the files on it. -/
def disk (files : Files) : Disk :=
  files.entries.foldl (fun disk (path, bytes) =>
    disk.put Disk.standardWork (Text.encoded path) (.file (Text.ofBytes bytes) 0o644 0))
    Disk.standard

/-- The bytes of a file.  A path with a zero byte in it is none. -/
def read (files : Files) (path : Text) : Except ReadError (List UInt8) :=
  if path.contains '\x00' then .error .invalidPath
  else
    let disk := files.disk
    match disk.find Disk.standardWork (Text.encoded path) with
    | .error error => .error (.ofPath error)
    | .ok id =>
        match disk.node? id with
        | some (.file contents ..) => .ok (Text.toBytes contents)
        | some (.device .unreachable) => .error .unreachable
        | some (.device _) => .ok []
        | _ => .error .isDirectory

end Files

/-- The text of a file that was read. -/
def textOf (contents : Except ReadError (List UInt8)) : Except ReadError Text := do
  match Utf8.decode? (← contents) with
  | some text => pure text
  | none => throw .invalidData

end Reroute

import Reroute.Disk.Standard
import Reroute.Shell.Command
import Reroute.Text.Numeral

/-!
What the processes of a script share, and what each has of its own.  They share the disk, the
pipes, the text that was written to the outputs of the whole script, a clock, and what open
files are read and written at.  A process has descriptors, a directory that it is in, and a mask
of rights.
-/
namespace Reroute.Shell

/-- Why a system refuses something. -/
inductive SystemError where
  | path (error : PathError)
  | isDirectory
  | alreadyThere
  | badDescriptor
  | noSpace
  | unreachable
  | denied
  | brokenPipe
  | wrongFormat
deriving Repr, DecidableEq

/-- The wording of a refusal. -/
def SystemError.message : SystemError → Text
  | .path .missing => "No such file or directory".toList
  | .path .notDirectory => "Not a directory".toList
  | .path .nameTooLong => "File name too long".toList
  | .path .tooManyLinks => "Too many levels of symbolic links".toList
  | .isDirectory => "Is a directory".toList
  | .alreadyThere => "File exists".toList
  | .badDescriptor => "Bad file descriptor".toList
  | .noSpace => "No space left on device".toList
  | .unreachable => "No such device or address".toList
  | .denied => "Permission denied".toList
  | .brokenPipe => "Broken pipe".toList
  | .wrongFormat => "Exec format error".toList

/-- How a process has ended. -/
inductive Ending where
  | status (code : Nat)
  | signal (number : Nat)
deriving Repr, DecidableEq

/-- The status that a shell knows an ending by. -/
def Ending.code : Ending → Nat
  | .status code => code
  | .signal number => 128 + number

/-- What an open file is. -/
inductive Channel where
  | device (kind : Device)
  | node (id : Nat)
  | pipe (id : Nat)
  | output (number : Nat)
deriving Repr, DecidableEq

/-- An open file: what it is, where it is read and written at, and what it was opened for. -/
structure OpenFile where
  channel : Channel
  position : Nat
  reads : Bool
  writes : Bool
  appends : Bool

/-- The text in a pipe: what was written since it was last read comes in reverse.  A pipe that
another process reads knows which. -/
structure Pipe where
  ready : Text := []
  pending : List Text := []
  size : Nat := 0
  reader? : Option Nat := none

/-- All that can be read from a pipe. -/
def Pipe.text (pipe : Pipe) : Text :=
  match pipe.pending with
  | [] => pipe.ready
  | pending => pipe.ready ++ pending.reverse.flatten

/-- What processes share.  What was written to the outputs comes with the time, in
milliseconds, and the last of it comes first.  The events count what may let a process go on
that waits. -/
structure World where
  disk : Disk
  openFiles : Array OpenFile
  pipes : Array Pipe
  written : List (Nat × Nat × Text)
  clock : Nat
  events : Nat
  nextProcess : Nat

/-- What a process has of its own, with the process that has started it. -/
structure Process where
  id : Nat
  parent : Nat
  descriptors : List (Nat × Nat)
  here : Nat
  mask : Nat

/-- A process among the others. -/
structure System where
  world : World
  process : Process

/-- The first process finds no input and writes to the two outputs of the script. -/
def System.start : System where
  world := {
    disk := Disk.standard
    openFiles := #[⟨.device .null, 0, true, false, false⟩, ⟨.output 1, 0, false, true, false⟩,
      ⟨.output 2, 0, false, true, false⟩]
    pipes := #[]
    written := []
    clock := 0
    events := 0
    nextProcess := 4713 }
  process := ⟨4712, 4711, [(0, 0), (1, 1), (2, 2)], Disk.standardWork, 0o022⟩

/-- Replace the value of a key. -/
def replaceKey {α β : Type} [BEq α] (key : α) (value : β) (entries : List (α × β)) :
    List (α × β) :=
  (key, value) :: entries.filter fun entry => entry.1 != key

/-- Remove a key. -/
def removeKey {α β : Type} [BEq α] (key : α) (entries : List (α × β)) : List (α × β) :=
  entries.filter fun entry => entry.1 != key

namespace System

/-- The text that was written to an output of the script, in the order of time. -/
def output (system : System) (number : Nat) : Text :=
  let own := system.world.written.reverse.filter fun entry => entry.2.1 == number
  (own.mergeSort fun a b => a.1 ≤ b.1).flatMap fun entry => entry.2.2

/-- The open file behind a descriptor. -/
def openFile? (system : System) (descriptor : Nat) : Option OpenFile :=
  (system.process.descriptors.lookup descriptor).bind fun id => system.world.openFiles[id]?

/-- The disk. -/
def disk (system : System) : Disk := system.world.disk

/-- The node that a path leads to from where the process is. -/
def nodeAt? (system : System) (path : Text) (last : Bool := true) : Option Node :=
  system.disk.nodeAt? system.process.here path last

/-- Whether a path leads to a directory. -/
def isDirectory (system : System) (path : Text) : Bool :=
  system.disk.isDirectory system.process.here path

/-- Put another disk in place. -/
def withDisk (system : System) (disk : Disk) : System :=
  { system with world := { system.world with disk := disk } }

/-- Add an open file, and tell its number. -/
def addOpen (system : System) (file : OpenFile) : System × Nat :=
  ({ system with world := { system.world with openFiles := system.world.openFiles.push file } },
    system.world.openFiles.size)

/-- Add a pipe with text in it, and tell its number. -/
def addPipe (system : System) (text : Text) (reader? : Option Nat := none) : System × Nat :=
  let pipe : Pipe := { ready := text, size := text.length, reader? := reader? }
  ({ system with world := { system.world with pipes := system.world.pipes.push pipe } },
    system.world.pipes.size)

/-- Lead a descriptor to an open file. -/
def connect (system : System) (descriptor id : Nat) : System :=
  { system with
    process := { system.process with
      descriptors := replaceKey descriptor id system.process.descriptors } }

/-- Close a descriptor. -/
def close (system : System) (descriptor : Nat) : System :=
  { system with
    process := { system.process with
      descriptors := removeKey descriptor system.process.descriptors } }

/-- Set the position of the open file behind a descriptor. -/
def seek (system : System) (descriptor position : Nat) : System :=
  match system.process.descriptors.lookup descriptor with
  | some id =>
      { system with
        world := { system.world with
          openFiles := system.world.openFiles.modify id fun file => { file with position := position } } }
  | none => system

/-- Write to a channel at a position.  The result tells the position behind what was written. -/
def writeAt (system : System) (file : OpenFile) (text : Text) :
    Except SystemError (System × Nat) :=
  match file.channel with
  | .device .full => .error .noSpace
  | .device _ => .ok (system, file.position)
  | .output number =>
      let entry := (system.world.clock, number, text)
      .ok ({ system with world := { system.world with written := entry :: system.world.written } },
        file.position)
  | .pipe id =>
      .ok ({ system with
        world := { system.world with
          events := system.world.events + 1
          pipes := system.world.pipes.modify id fun pipe =>
            { pipe with pending := text :: pipe.pending, size := pipe.size + text.length } } },
        file.position)
  | .node id =>
      let contents := system.disk.contents id
      let position := if file.appends then contents.length else file.position
      let gap := List.replicate (position - contents.length) '\x00'
      let changed := contents.take position ++ gap ++ text ++
        contents.drop (position + text.length)
      .ok (system.withDisk (system.disk.putContents id changed), position + text.length)

/-- Write to a descriptor. -/
def write (system : System) (descriptor : Nat) (text : Text) : Except SystemError System := do
  match system.openFile? descriptor with
  | none => throw .badDescriptor
  | some file =>
      if !file.writes then throw .badDescriptor
      if text.isEmpty then pure system
      else
        let (system, position) ← system.writeAt file text
        pure (system.seek descriptor position)

/-- What can be read from an open file, and whether it has no end.  Then there is as much of it as
is asked for. -/
def readable (system : System) (file : OpenFile) (amount : Nat) : Except SystemError (Text × Bool) :=
  if !file.reads then .error .badDescriptor
  else
    match file.channel with
    | .device .null => .ok ([], false)
    | .device .unreachable => .ok ([], false)
    | .device .random =>
        .ok ((List.range amount).map fun i => Char.ofNat ((i * i * 31 + i * 7 + 11) % 256), true)
    | .device _ => .ok (List.replicate amount '\x00', true)
    | .output _ => .ok ([], false)
    | .pipe id => .ok ((((system.world.pipes[id]?).map Pipe.text).getD []), false)
    | .node id =>
        match system.disk.node? id with
        | some (.file contents ..) => .ok (contents.drop file.position, false)
        | _ => .error .isDirectory

/-- What can be read from a descriptor. -/
def peek (system : System) (descriptor amount : Nat) : Except SystemError (Text × Bool) :=
  match system.openFile? descriptor with
  | some file => system.readable file amount
  | none => .error .badDescriptor

/-- Step over what was read from a descriptor.  What was read from a pipe is gone. -/
def skip (system : System) (descriptor count : Nat) : System :=
  match system.openFile? descriptor with
  | some { channel := .pipe id, .. } =>
      { system with
        world := { system.world with
          events := system.world.events + 1
          pipes := system.world.pipes.modify id fun pipe =>
            { pipe with
              ready := pipe.text.drop count
              pending := []
              size := pipe.size - count } } }
  | some file => system.seek descriptor (file.position + count)
  | none => system

/-- The ways to open a file. -/
structure Access where
  reads : Bool := false
  writes : Bool := false
  appends : Bool := false
  creates : Bool := false
  truncates : Bool := false
  fresh : Bool := false

/-- Make an empty file at a free place. -/
def create (system : System) (place : Place) (mode : Nat) : System × Nat :=
  let rights := mode &&& (0o777 ^^^ (system.process.mask &&& mode))
  let (disk, id) := system.disk.add place.directory place.name
    (.file [] rights (system.disk.changes + 1))
  (system.withDisk disk, id)

/-- Open what a path leads to.  The directories `/dev/fd` and its likes lead to descriptors. -/
def openPath (system : System) (path : Text) (access : Access) : Except SystemError (System × Nat) := do
  match descriptorOf? path with
  | some descriptor =>
      match system.openFile? descriptor with
      | some file => pure (system.addOpen file)
      | none => throw (.path .missing)
  | none =>
      match system.disk.place system.process.here path with
      | .error error => throw (.path error)
      | .ok place =>
          let file (channel : Channel) : OpenFile :=
            ⟨channel, 0, access.reads, access.writes, access.appends⟩
          match place.node? with
          | none =>
              if !access.creates then throw (.path .missing)
              let (system, id) := system.create place 0o666
              pure (system.addOpen (file (.node id)))
          | some id =>
              if access.fresh then throw .alreadyThere
              match system.disk.node? id with
              | some (.device .unreachable) => throw .unreachable
              | some (.device kind) => pure (system.addOpen (file (.device kind)))
              | some (.file ..) =>
                  let system := if access.truncates then
                      system.withDisk (system.disk.putContents id [])
                    else system
                  pure (system.addOpen (file (.node id)))
              | _ =>
                  if access.writes then throw .isDirectory
                  pure (system.addOpen (file (.node id)))
where
  /-- The descriptor that a path stands for. -/
  descriptorOf? (path : Text) : Option Nat :=
    match String.ofList path with
    | "/dev/stdin" => some 0
    | "/dev/stdout" => some 1
    | "/dev/stderr" => some 2
    | _ =>
        match Text.after? "/dev/fd/".toList path with
        | some (d :: rest) =>
            if (d :: rest).all Char.isDigit then some (Numeral.value (d :: rest)) else none
        | _ => none

end System

end Reroute.Shell

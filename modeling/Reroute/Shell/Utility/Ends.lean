import Reroute.Shell.Utility.Basic

/-!
Utilities for the size and the ends of texts: how much there is, what stands first, and what
stands last.
-/
namespace Reroute.Shell.Utility

open Machine

/-! ### The first and the last part -/

/-- How much of a text is asked for: so many lines or bytes, or all but so many.  For the last
part the other way counts from the first. -/
structure Extent where
  count : Nat
  bytes : Bool
  inverse : Bool
  mark : Char

/-- The number of characters in front of a line. -/
def lengthOfLines (mark : Char) : Nat → Text → Nat
  | 0, _ => 0
  | _ + 1, [] => 0
  | count + 1, s =>
      let line := s.takeWhile fun c => c != mark
      let rest := s.drop (line.length + 1)
      if rest.isEmpty then s.length else line.length + 1 + lengthOfLines mark count rest

/-- The number of lines; one without a mark at its end counts. -/
def lineCount (mark : Char) (s : Text) : Nat :=
  s.count mark + (if s.getLast?.getD mark == mark then 0 else 1)

/-- The first part of a text. -/
def Extent.first (extent : Extent) (s : Text) : Text :=
  let limit (total : Nat) : Nat := if extent.inverse then total - extent.count else extent.count
  if extent.bytes then s.take (limit s.length)
  else s.take (lengthOfLines extent.mark (limit (lineCount extent.mark s)) s)

/-- The last part of a text. -/
def Extent.last (extent : Extent) (s : Text) : Text :=
  let limit (total : Nat) : Nat :=
    if extent.inverse then extent.count - 1 else total - extent.count
  if extent.bytes then s.drop (limit s.length)
  else s.drop (lengthOfLines extent.mark (limit (lineCount extent.mark s)) s)

/-- The number of bytes that are read at once in search of the first part. -/
def headPortion : Nat := 8192

/-- Read what the first part needs, and step back behind it where that is possible. -/
def readFirst (extent : Extent) (descriptor : Nat) : Run (Except SystemError Text) := do
  let enough (parts : List Text) : Bool :=
    if extent.inverse then false
    else if extent.bytes then
      extent.count ≤ parts.foldl (fun total part => total + part.length) 0
    else extent.count ≤ parts.foldl (fun total part => total + part.count extent.mark) 0
  if extent.count = 0 && !extent.inverse then
    match ← readParts descriptor 0 (fun _ => true) 0 [] 1 with
    | .ok _ => pure (.ok [])
    | .error error => pure (.error error)
  else
    match ← readParts descriptor headPortion enough 0 [] patience with
    | .error error => pure (.error error)
    | .ok text => do
        let part := extent.first text
        if !extent.inverse then
          match (← getSystem).openFile? descriptor with
          | some { channel := .node _, position, .. } =>
              changeSystem fun system =>
                system.seek descriptor (position - (text.length - part.length))
          | _ => pure ()
        pure (.ok part)

/-- The name that a file is announced by. -/
def announced (path : Text) : Text :=
  if path = ['-'] then "standard input".toList else path

/-- The line that announces a file. -/
def heading (isFirst : Bool) (path : Text) : Text :=
  (if isFirst then [] else ['\n']) ++ "==> ".toList ++ announced path ++ " <==\n".toList

/-- The complaint of a file that cannot be opened, or not be read. -/
def endComplaint (path : Text) (error : SystemError) : Text :=
  let name := quoted (announced path)
  match error with
  | .isDirectory => "error reading ".toList ++ name ++ ": ".toList ++ error.message
  | _ => "cannot open ".toList ++ name ++ " for reading: ".toList ++ error.message

/-- Write a part of each file, announced if that is asked for. -/
def writeParts (call : Call) (announce : Bool) (read : Nat → Run (Except SystemError Text))
    (paths : List Text) : Run Ending := do
  let mut status := 0
  let mut isFirst := true
  let mut failed : Option SystemError := none
  for path in orInput paths do
    let result ← withFile path read
    let opening := if announce then heading isFirst path else []
    let output? : Option Text := match result with
      | .ok part => some (opening ++ part)
      | .error .isDirectory => some opening
      | .error _ => none
    if let some output := output? then
      isFirst := false
      if failed.isNone then
        if let .error error := (← write 1 output) then failed := some error
    if let .error error := result then
      complain call.name (endComplaint path error)
      status := 1
  match failed with
  | none => pure (.status status)
  | some error => do
      complain call.name ("write error: ".toList ++ error.message)
      pure (.status 1)

/-- The extent that the options of `head` ask for, if it is one. -/
def headExtent (parsed : Parsed) : Except Text Extent :=
  let mark := if parsed.has 'z' then '\x00' else '\n'
  match parsed.last? ['n', 'c'] with
  | none => .ok ⟨10, false, false, mark⟩
  | some letter =>
      let text := (parsed.value? letter).getD []
      let (inverse, digits) := match text with
        | '-' :: rest => (true, rest)
        | rest => (false, rest)
      match countOf? digits with
      | some count => .ok ⟨count, letter == 'c', inverse, mark⟩
      | none =>
          .error ("invalid number of ".toList ++
            (if letter == 'c' then "bytes".toList else "lines".toList) ++ ": ".toList ++
            quoted digits)

/-- The arguments with a count that is an option by itself written out. -/
def withCount : List Text → List Text
  | ('-' :: d :: rest) :: more =>
      if d.isDigit then
        let digits := (d :: rest).takeWhile Char.isDigit
        let letters := (d :: rest).drop digits.length
        let kind := if letters.contains 'c' then 'c' else 'n'
        let others := letters.filter fun c => c != 'c' && c != 'n' && c != 'l'
        (if others.isEmpty then [] else ['-' :: others]) ++ ['-' :: kind :: digits] ++ more
      else ('-' :: d :: rest) :: more
  | arguments => arguments

/-- The options of `head` and `tail`. -/
def endOptions : List Known :=
  [⟨'n', "lines", .value⟩, ⟨'c', "bytes", .value⟩, ⟨'q', "quiet", .nothing⟩,
    ⟨'q', "silent", .nothing⟩, ⟨'v', "verbose", .nothing⟩, ⟨'z', "zero-terminated", .nothing⟩]

/-- Whether files are announced. -/
def announces (parsed : Parsed) : Bool :=
  match parsed.last? ['q', 'v'] with
  | some letter => letter == 'v'
  | none => 1 < parsed.operands.length

/-- Write the first part of files. -/
def head : Utility := fun call =>
  withOptions endOptions (fun parsed call =>
    match headExtent parsed with
    | .error reason => do
        complain call.name reason
        pure (.status 1)
    | .ok extent => writeParts call (announces parsed) (readFirst extent) parsed.operands)
    1 true { call with arguments := withCount call.arguments }

/-- The extent that the options of `tail` ask for, if it is one. -/
def tailExtent (parsed : Parsed) : Except Text Extent :=
  let mark := if parsed.has 'z' then '\x00' else '\n'
  match parsed.last? ['n', 'c'] with
  | none => .ok ⟨10, false, false, mark⟩
  | some letter =>
      let text := (parsed.value? letter).getD []
      let (inverse, digits) := match text with
        | '+' :: rest => (true, rest)
        | '-' :: rest => (false, rest)
        | rest => (false, rest)
      match countOf? digits with
      | some count => .ok ⟨count, letter == 'c', inverse, mark⟩
      | none =>
          .error ("invalid number of ".toList ++
            (if letter == 'c' then "bytes".toList else "lines".toList) ++ ": ".toList ++
            quoted digits)

/-- The arguments of `tail` with a count that is an argument by itself written out. -/
def withTailCount (arguments : List Text) : List Text :=
  match arguments with
  | ('+' :: d :: rest) :: more =>
      if d.isDigit && more.length ≤ 1 then
        let digits := (d :: rest).takeWhile Char.isDigit
        let kind := if ((d :: rest).drop digits.length).contains 'c' then 'c' else 'n'
        ('-' :: kind :: '+' :: digits) :: more
      else arguments
  | _ => withCount arguments

/-- Write the last part of files. -/
def tail : Utility := fun call =>
  withOptions (endOptions ++ [⟨'f', "follow", .nothing⟩, ⟨'F', "", .nothing⟩,
    ⟨'s', "sleep-interval", .value⟩]) (fun parsed call =>
    match tailExtent parsed with
    | .error reason => do
        complain call.name reason
        pure (.status 1)
    | .ok extent =>
        let read (descriptor : Nat) : Run (Except SystemError Text) := do
          pure ((← input descriptor).map extent.last)
        writeParts call (announces parsed) read parsed.operands)
    1 true { call with arguments := withTailCount call.arguments }

/-! ### The size -/

/-- How much a text holds: lines, words, bytes, and the greatest width of a line. -/
structure Size where
  lines : Nat
  words : Nat
  bytes : Nat
  width : Nat

/-- What is known of a text up to a place: its size, whether a word is not over, and the width
of the line so far. -/
structure Counting where
  size : Size
  inWord : Bool
  column : Nat

/-- Count a character. -/
def Counting.step (counting : Counting) (c : Char) : Counting :=
  let { size, inWord, column } := counting
  let size := { size with bytes := size.bytes + 1 }
  let visible := !isHidden c
  if c = '\n' || c = '\r' || c = '\x0c' then
    let lines := if c = '\n' then size.lines + 1 else size.lines
    ⟨{ size with lines := lines, width := max size.width column }, false, 0⟩
  else if c = '\t' then ⟨size, false, column + 8 - column % 8⟩
  else if c = ' ' then ⟨size, false, column + 1⟩
  else if c = '\x0b' then ⟨size, false, column⟩
  else if visible then
    ⟨if inWord then size else { size with words := size.words + 1 }, true, column + 1⟩
  else ⟨size, inWord, column⟩

/-- The size of a text. -/
def sizeOf (s : Text) : Size :=
  let counting := s.foldl Counting.step ⟨⟨0, 0, 0, 0⟩, false, 0⟩
  { counting.size with width := max counting.size.width counting.column }

/-- The columns of a size that are asked for. -/
def Size.columns (size : Size) (has : Char → Bool) : List Nat :=
  [('l', size.lines), ('w', size.words), ('m', size.bytes), ('c', size.bytes),
    ('L', size.width)].filterMap fun (letter, n) => if has letter then some n else none

/-- A number with blanks in front up to a width. -/
def padded (width n : Nat) : Text :=
  let digits := Numeral.render n
  List.replicate (width - digits.length) ' ' ++ digits

/-- The number of bytes in the file of a path, if it is one. -/
def fileSize? (system : System) (path : Text) : Option Nat :=
  if path = ['-'] then
    match system.openFile? 0 with
    | some { channel := .node id, .. } => some (system.disk.contents id).length
    | _ => none
  else
    match system.nodeAt? path with
    | some (.file contents ..) => some contents.length
    | _ => none

/-- Whether there is something at a path. -/
def isThere (system : System) (path : Text) : Bool :=
  path = ['-'] || (system.nodeAt? path).isSome

/-- Write the sizes of files. -/
def wc : Utility := withOptions
    [⟨'c', "bytes", .nothing⟩, ⟨'m', "chars", .nothing⟩, ⟨'l', "lines", .nothing⟩,
      ⟨'w', "words", .nothing⟩, ⟨'L', "max-line-length", .nothing⟩] fun parsed call => do
  let given := ['l', 'w', 'm', 'c', 'L'].filter parsed.has
  let wanted := if given.isEmpty then ['l', 'w', 'c'] else given
  let has (letter : Char) : Bool := wanted.contains letter
  let paths := orInput parsed.operands
  let system ← getSystem
  let width :=
    if paths.length = 1 && wanted.length = 1 then 1
    else
      let found := paths.filter (isThere system)
      let total := found.foldl (fun total path => total + (fileSize? system path).getD 0) 0
      max (Numeral.render total).length
        (if found.any fun path => (fileSize? system path).isNone then 7 else 1)
  let row (size : Size) (name : Text) : Text :=
    Text.joinWith [' '] ((size.columns has).map (padded width)) ++
      (if name.isEmpty then [] else ' ' :: name) ++ ['\n']
  let nameOf (path : Text) : Text :=
    if parsed.operands.isEmpty then [] else quotedIfNeeded path
  let add (a b : Size) : Size :=
    ⟨a.lines + b.lines, a.words + b.words, a.bytes + b.bytes, max a.width b.width⟩
  let mut total : Size := ⟨0, 0, 0, 0⟩
  let mut status := 0
  let mut failed : Option SystemError := none
  for path in paths do
    let result ← fileOrInput path
    let size := sizeOf (result.toOption.getD [])
    total := add total size
    let isListed := match result with
      | .ok _ | .error .isDirectory => true
      | .error _ => false
    if let .error error := result then
      complain call.name (unreadable path error)
      status := 1
    if isListed && failed.isNone then
      if let .error error := (← write 1 (row size (nameOf path))) then failed := some error
  if let some error := failed then
    complain call.name ("write error: ".toList ++ error.message)
    pure (.status 1)
  else if 1 < paths.length then finish call.name (row total "total".toList) status
  else pure (.status status)

/-- The utilities of this kind by their names. -/
def endUtilities : List (String × Utility) :=
  [("head", head), ("tail", tail), ("wc", wc)]

end Reroute.Shell.Utility

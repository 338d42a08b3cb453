import Reroute.Shell.Integer
import Reroute.Shell.Machine

/-!
What the utilities of a system have in common: how they are called, their options, how they
read their input and write their output, and the wording of what they complain of.
-/
namespace Reroute.Shell

/-- What a program is called with: its name, its arguments, and the variables that are handed
on to it. -/
structure Call where
  name : Text
  arguments : List Text
  environment : List (Text × Text)

/-- A utility: what it does, and how it ends. -/
abbrev Utility := Call → Run Ending

namespace Utility

open Machine

/-- The escapes of characters that cannot be shown. -/
def hiddenEscape (c : Char) : Text :=
  match [('\x07', 'a'), ('\x08', 'b'), ('\t', 't'), ('\n', 'n'), ('\x0b', 'v'), ('\x0c', 'f'),
      ('\r', 'r')].lookup c with
  | some letter => ['\\', letter]
  | none =>
      let digits := Nat.toDigits 8 c.toNat
      '\\' :: (List.replicate (3 - digits.length) '0' ++ digits)

/-- Whether a character cannot be shown. -/
def isHidden (c : Char) : Bool := c.toNat < 0x20 || 0x7F ≤ c.toNat

/-- The characters that mean something to a shell. -/
def meansSomething (c : Char) : Bool := " !\"$&'()*;<=>?[\\^\x60|".toList.contains c

/-- A name in quotes, so that a shell would read it back. -/
def quoted (name : Text) : Text :=
  let needsSingle (c : Char) : Bool :=
    c != ' ' && c != '\'' && (meansSomething c || "#~\x7b\x7d".toList.contains c)
  if name.contains '\'' && !name.any needsSingle && !name.any isHidden then
    '"' :: name ++ ['"']
  else '\'' :: go false name
where
  /-- Go on behind a quote, or behind a dollar sign and a quote for what cannot be shown. -/
  go (hidden : Bool) : Text → Text
    | [] => ['\'']
    | c :: rest =>
        if isHidden c then
          (if hidden then [] else "\'$\'".toList) ++ hiddenEscape c ++ go true rest
        else
          (if hidden then "\'\'".toList else []) ++
            (if c = '\'' then "\'\\\'\'".toList else [c]) ++ go false rest

/-- A name, in quotes if it needs them. -/
def quotedIfNeeded (name : Text) : Text :=
  let first := name.head?.getD ' '
  if name.any meansSomething || name.any isHidden || first = '#' || first = '~' || name.isEmpty ||
      name = ['\x7b'] || name = ['\x7d'] then quoted name
  else name

/-- Complain behind the name of the utility. -/
def complain (name message : Text) : Run Unit := do
  let _ ← write 2 (name ++ ": ".toList ++ message ++ ['\n'])

/-- Write the output of a utility, and end.  If it cannot be written the utility complains and
ends with a status of its own. -/
def finish (name : Text) (output : Text) (status : Nat) (failure : Nat := 1) :
    Run Ending := do
  match ← write 1 output with
  | .ok () => pure (.status status)
  | .error error =>
      if output.isEmpty then pure (.status status)
      else
        complain name ("write error: ".toList ++ error.message)
        pure (.status failure)

/-- The number of bytes that are read at once. -/
def portion : Nat := 65536

/-- The number of bytes behind which nobody waits for an end any more. -/
def inputLimit : Nat := 16777216

/-- Read some of what a descriptor has, and tell whether that was the last of it. -/
def readSome (descriptor amount : Nat) : Run (Except SystemError (Text × Bool)) := do
  match ← await descriptor amount (fun text => !text.isEmpty) patience with
  | .error error => pure (.error error)
  | .ok (text, isEnd) => do
      let part := text.take amount
      let count := part.length
      changeSystem fun system => system.skip descriptor count
      pure (.ok (part, isEnd && text.length ≤ count))

/-- Read a descriptor to its end, or until there is enough of it.  The parts that were read come
in reverse. -/
def readParts (descriptor amount : Nat) (isEnough : List Text → Bool) (size : Nat)
    (parts : List Text) : Nat → Run (Except SystemError Text)
  | 0 => pure (.ok parts.reverse.flatten)
  | fuel + 1 => do
      match ← readSome descriptor amount with
      | .error error => pure (.error error)
      | .ok (text, isEnd) =>
          let size := size + text.length
          let parts := text :: parts
          if isEnd || inputLimit ≤ size || isEnough parts then
            pure (.ok parts.reverse.flatten)
          else readParts descriptor amount isEnough size parts fuel

/-- Read a descriptor to its end. -/
def input (descriptor : Nat) : Run (Except SystemError Text) :=
  readParts descriptor portion (fun _ => false) 0 [] patience

/-- The descriptor that utilities open files behind. -/
def ownDescriptor : Nat := 255

/-- Open a file and work on it. -/
def withOpened {α : Type} (path : Text) (work : Nat → Run (Except SystemError α)) :
    Run (Except SystemError α) := do
  match (← getSystem).openPath path { reads := true } with
  | .error error => pure (.error error)
  | .ok (system, id) => do
      changeSystem fun _ => system.connect ownDescriptor id
      let result ← work ownDescriptor
      changeSystem fun system => system.close ownDescriptor
      pure result

/-- Read a file to its end. -/
def fileText (path : Text) : Run (Except SystemError Text) := withOpened path input

/-- Work on a file behind a descriptor, where a dash stands for the input. -/
def withFile {α : Type} (path : Text) (work : Nat → Run (Except SystemError α)) :
    Run (Except SystemError α) :=
  if path = ['-'] then work 0 else withOpened path work

/-- Read a file to its end, where a dash stands for the input. -/
def fileOrInput (path : Text) : Run (Except SystemError Text) := withFile path input

/-- The complaint that a file cannot be read. -/
def unreadable (path : Text) (error : SystemError) : Text :=
  quotedIfNeeded path ++ ": ".toList ++ error.message

/-- The input stands for no paths at all. -/
def orInput (paths : List Text) : List Text := if paths.isEmpty then [['-']] else paths

/-- The texts of files by their paths, with a complaint for each that cannot be read.  Where
there are none the input is read, under the path of a dash.  The second component tells whether
all could be read. -/
def gather (name : Text) (paths : List Text) : Run (List (Text × Text) × Bool) := do
  let mut found := []
  let mut complete := true
  for path in orInput paths do
    match ← fileOrInput path with
    | .ok text => found := (path, text) :: found
    | .error error => do
        complain name (unreadable path error)
        complete := false
  pure (found.reverse, complete)

/-- Cut a text behind each line feed. -/
def lines (s : Text) : List Text :=
  let (line, rest) := s.foldr (fun c (line, rest) =>
    if c = '\n' then (['\n'], if line.isEmpty then rest else line :: rest)
    else (c :: line, rest)) ([], [])
  if line.isEmpty then rest else line :: rest

/-- A line less its line feed. -/
def chomp (line : Text) : Text :=
  if line.getLast? == some '\n' then line.dropLast else line

/-! ### Options -/

/-- Whether an option has a value. -/
inductive Taking where
  | nothing
  | value
  | perhaps
deriving Repr, DecidableEq

/-- An option: its letter, its long name, and whether it has a value.  One without a letter of
its own is known by a character that is no byte. -/
structure Known where
  letter : Char
  long : String
  taking : Taking

/-- The options and the other arguments of a call. -/
structure Parsed where
  options : List (Char × Option Text)
  operands : List Text

namespace Parsed

/-- Whether an option is given. -/
def has (parsed : Parsed) (letter : Char) : Bool :=
  parsed.options.any fun entry => entry.1 == letter

/-- The last value of an option. -/
def value? (parsed : Parsed) (letter : Char) : Option Text :=
  ((parsed.options.reverse.find? fun entry => entry.1 == letter).bind Prod.snd)

/-- The last of some options that is given. -/
def last? (parsed : Parsed) (letters : List Char) : Option Char :=
  (parsed.options.reverse.find? fun entry => letters.contains entry.1).map Prod.fst

end Parsed

/-- The known option of a long name, which may be cut short where that is not ambiguous. -/
def longOption? (known : List Known) (name : Text) : Except Text Known :=
  let fitting := known.filter fun option =>
    !option.long.isEmpty && name.isPrefixOf option.long.toList
  match fitting.find? fun option => option.long.toList == name, fitting with
  | some option, _ => .ok option
  | none, [option] => .ok option
  | none, [] => .error ("unrecognized option \'--".toList ++ name ++ ['\''])
  | none, options =>
      .error ("option \'--".toList ++ name ++ "\' is ambiguous; possibilities:".toList ++
        options.flatMap fun option => " \'--".toList ++ option.long.toList ++ ['\''])

/-- Read the letters of an argument as options, with the arguments that follow it. -/
def shortOptions (known : List Known) : Text → List Text →
    Except Text (List (Char × Option Text) × List Text)
  | [], rest => .ok ([], rest)
  | c :: more, rest =>
      match known.find? fun option => option.letter == c with
      | none => .error ("invalid option -- \'".toList ++ [c, '\''])
      | some option =>
          match option.taking, more, rest with
          | .nothing, _, _ => do
              let (found, rest) ← shortOptions known more rest
              pure ((c, none) :: found, rest)
          | .perhaps, _, _ => .ok ([(c, if more.isEmpty then none else some more)], rest)
          | .value, [], [] =>
              .error ("option requires an argument -- \'".toList ++ [c, '\''])
          | .value, [], value :: rest => .ok ([(c, some value)], rest)
          | .value, value, _ => .ok ([(c, some value)], rest)

/-- Read the long option of an argument, with the arguments that follow it. -/
def longOption (known : List Known) (body : Text) (rest : List Text) :
    Except Text ((Char × Option Text) × List Text) := do
  let (name, given?) := match Text.cut '=' body with
    | some (name, value) => (name, some value)
    | none => (body, none)
  let option ← longOption? known name
  let full := "option \'--".toList ++ option.long.toList ++ ['\'']
  match option.taking, given?, rest with
  | .nothing, some _, _ => throw (full ++ " doesn't allow an argument".toList)
  | .nothing, none, _ | .perhaps, none, _ => pure ((option.letter, none), rest)
  | _, some value, _ => pure ((option.letter, some value), rest)
  | .value, none, value :: rest => pure ((option.letter, some value), rest)
  | .value, none, [] => throw (full ++ " requires an argument".toList)

/-- Split options and other arguments.  Options may stand behind other arguments, unless the
utility asks for those first that its own command has.  The fuel is the number of arguments. -/
def parse (known : List Known) (mixed : Bool) : Nat → List Text → Except Text Parsed
  | fuel + 1, argument :: rest =>
      match argument with
      | ['-', '-'] => .ok ⟨[], rest⟩
      | '-' :: '-' :: body => do
          let (first, rest) ← longOption known body rest
          let others ← parse known mixed fuel rest
          pure { others with options := first :: others.options }
      | '-' :: c :: more => do
          let (found, rest) ← shortOptions known (c :: more) rest
          let others ← parse known mixed fuel rest
          pure { others with options := found ++ others.options }
      | _ =>
          if mixed then do
            let others ← parse known mixed fuel rest
            pure { others with operands := argument :: others.operands }
          else .ok ⟨[], argument :: rest⟩
  | _, rest => .ok ⟨[], rest⟩

/-! ### Counts -/

/-- The factor that a letter behind a number stands for, in powers of 1024 or of 1000. -/
def factorOf? (s : Text) : Option Nat :=
  let power (letter : Char) : Option Nat :=
    [('K', 1), ('k', 1), ('M', 2), ('G', 3), ('T', 4), ('P', 5), ('E', 6), ('Z', 7),
      ('Y', 8)].lookup letter
  match s with
  | [] => some 1
  | ['b'] => some 512
  | [letter] | [letter, 'i', 'B'] => (power letter).map (Nat.pow 1024)
  | [letter, 'B'] => (power letter).map (Nat.pow 1000)
  | _ => none

/-- The number that digits with a factor behind them stand for. -/
def countOf? (s : Text) : Option Nat :=
  let (digits, rest) := Integer.splitDigits 10 s
  if digits.isEmpty then none else (factorOf? rest).map (Numeral.value digits * ·)

/-- Complain of the way that a utility is called. -/
def misused (name message : Text) (status : Nat := 1) : Run Ending := do
  complain name (message ++ "\nTry '".toList ++ name ++ " --help' for more information.".toList)
  pure (.status status)

/-- Run a utility with the options of its call, or complain of them. -/
def withOptions (known : List Known) (run : Parsed → Call → Run Ending)
    (status : Nat := 1) (mixed : Bool := true) : Utility := fun call =>
  match parse known mixed call.arguments.length call.arguments with
  | .ok parsed => run parsed call
  | .error message => misused call.name message status

/-- The complaint that an operand is missing, or that there is one too many. -/
def missingOperand (call : Call) (operands : List Text) : Run Ending :=
  match operands.getLast? with
  | none => misused call.name "missing operand".toList
  | some last => misused call.name ("missing operand after ".toList ++ quoted last)

/-- The complaint that there is an operand too many. -/
def extraOperand (call : Call) (operand : Text) : Run Ending :=
  misused call.name ("extra operand ".toList ++ quoted operand)

end Utility

end Reroute.Shell

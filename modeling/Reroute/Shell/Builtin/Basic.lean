import Reroute.Shell.Machine

/-!
What the builtins of a shell have in common: their options, their numbers, and the way that
they quote texts.  A builtin puts its output into the buffer of the shell and returns a status.
-/
namespace Reroute.Shell

/-- A builtin, given its arguments. -/
abbrev Builtin := List Text → Run Nat

/-- A text in single quotes, so that a shell reads it back.  Single quotes in it stand in double
quotes. -/
def singleQuoted (s : Text) : Text := go s.length s
where
  /-- Go on with a rest; the fuel is its length. -/
  go : Nat → Text → Text
    | 0, _ => "\'\'".toList
    | fuel + 1, s =>
        let isMark (c : Char) : Bool := c == '\''
        let plain := '\'' :: s.takeWhile (fun c => !isMark c) ++ ['\'']
        let rest := s.dropWhile fun c => !isMark c
        match rest.takeWhile isMark, rest.dropWhile isMark with
        | [], _ => plain
        | marks, [] => plain ++ '"' :: marks ++ ['"']
        | marks, after => plain ++ '"' :: marks ++ '"' :: go fuel after

namespace Builtin

open Machine

/-- Whether a letter is an option, and then whether it has a value, as a colon behind it tells. -/
def takesValue? (c : Char) : Text → Option Bool
  | [] => none
  | d :: ':' :: known => if c = d then some true else takesValue? c known
  | d :: known => if c = d then some false else takesValue? c known

/-- Read the letters of an argument as options, with the arguments that follow it.  A value is
the rest of the argument, or the next one. -/
def letters (known : Text) : Text → List Text → Except Text (List (Char × Text) × List Text)
  | [], rest => .ok ([], rest)
  | c :: more, rest =>
      match takesValue? c known, more, rest with
      | none, _, _ => .error ("Illegal option -".toList ++ [c])
      | some false, _, _ => do
          let (found, rest) ← letters known more rest
          pure ((c, []) :: found, rest)
      | some true, [], [] => .error ("No arg for -".toList ++ c :: " option".toList)
      | some true, [], value :: rest => .ok ([(c, value)], rest)
      | some true, value, _ => .ok ([(c, value)], rest)

/-- Split options off arguments.  The fuel is the number of arguments. -/
def split (known : Text) : Nat → List Text → Except Text (List (Char × Text) × List Text)
  | fuel + 1, ('-' :: c :: more) :: rest =>
      if c = '-' && more.isEmpty then .ok ([], rest)
      else do
        let (first, rest) ← letters known (c :: more) rest
        let (others, rest) ← split known fuel rest
        pure (first ++ others, rest)
  | _, rest => .ok ([], rest)

/-- The options among the arguments of a builtin, with their values, and the other arguments. -/
def options (known : String) (arguments : List Text) : Run (List (Char × Text) × List Text) := do
  match split known.toList arguments.length arguments with
  | .ok found => pure found
  | .error reason => abort reason

/-- The arguments of a builtin that has no options. -/
def operands (arguments : List Text) : Run (List Text) := do
  let (_, rest) ← options "" arguments
  pure rest

/-- The number that an argument is. -/
def count (s : Text) : Run Nat := do
  match Integer.count? s with
  | some n => pure n
  | none => abort ("Illegal number: ".toList ++ s)

/-- Put a line into the output. -/
def emitLine (text : Text) : Run Unit := emit (text ++ ['\n'])

/-- Succeed. -/
def nothing : Builtin := fun _ => pure 0

/-- Fail. -/
def failure : Builtin := fun _ => pure 1

end Builtin

end Reroute.Shell

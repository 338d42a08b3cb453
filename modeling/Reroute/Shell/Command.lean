import Reroute.Text.Utf8

/-!
The commands of a shell script as trees.  A script is read as bytes, so every character of
the texts here stands for one byte.  A word is a row of pieces; marks stand where a quote
begins or ends, and between two of them nothing is split into fields.
-/
namespace Reroute.Shell

/-- What becomes of the value of a parameter.  The uses that look for an empty value count it
as a missing one if they are told to.  A last value ends the word behind its operand. -/
inductive Use where
  | value
  | lastValue
  | length
  | fallback (orEmpty : Bool)
  | replacement (orEmpty : Bool)
  | complaint (orEmpty : Bool)
  | assignment (orEmpty : Bool)
  | cutStart (longest : Bool)
  | cutEnd (longest : Bool)
  | unknown
deriving Repr, DecidableEq

/-- How a redirection opens a file. -/
inductive Opening where
  | read
  | write
  | overwrite
  | append
  | both
deriving Repr, DecidableEq

mutual

/-- A piece of a word.  An escaped character stands for itself, and what stands for an empty
operand is the empty word. -/
inductive Piece where
  | plain (c : Char)
  | escaped (c : Char)
  | mark
  | parameter (name : Text) (use : Use) (operand : List Piece)
  | output (script : Command)
  | arithmetic (expression : List Piece)

/-- A redirection: of a descriptor to a file, to where another descriptor leads, or to text
that stands in the script and is known by its number. -/
inductive Redirection where
  | file (descriptor : Nat) (opening : Opening) (path : List Piece)
  | copy (descriptor : Nat) (source : List Piece)
  | here (descriptor : Nat) (document : Nat)

/-- A command.  Those that can complain know the line that they stand on. -/
inductive Command where
  | nothing
  | simple (line : Nat) (assignments words : List (List Piece)) (redirections : List Redirection)
  | redirected (line : Nat) (body : Command) (redirections : List Redirection)
  | subshell (line : Nat) (body : Command) (redirections : List Redirection)
  | background (line : Nat) (body : Command) (redirections : List Redirection)
  | pipeline (waits : Bool) (parts : List Command)
  | negated (body : Command)
  | both (first second : Command)
  | either (first second : Command)
  | sequence (first second : Command)
  | conditional (test yes no : Command)
  | loop (whileTrue : Bool) (test body : Command)
  | forEach (line : Nat) (name : Text) (words : List (List Piece)) (body : Command)
  | choice (line : Nat) (word : List Piece) (clauses : List (List (List Piece) × Command))
  | definition (line : Nat) (name : Text) (body : Command)

end

instance : Inhabited Command := ⟨.nothing⟩

/-- A word before expansion. -/
abbrev Word := List Piece

/-- Whether there is no command. -/
def Command.isNothing : Command → Bool
  | .nothing => true
  | _ => false

/-- The text of a word without any quote or expansion in it. -/
def Word.bare? (word : Word) : Option Text :=
  word.mapM fun
    | .plain c => some c
    | _ => none

/-- The text of a word, less its quotes; expansions count as nothing. -/
def Word.literal (word : Word) : Text :=
  word.filterMap fun
    | .plain c => some c
    | .escaped c => some c
    | _ => none

/-- The characters a name begins with. -/
def isNameStart (c : Char) : Bool := c.isAlpha || c == '_'

/-- The characters of a name. -/
def isNameChar (c : Char) : Bool := c.isAlphanum || c == '_'

/-- Whether a text is a name. -/
def isName (s : Text) : Bool :=
  (s.head?.map isNameStart).getD false && s.all isNameChar

/-- The parameters whose name is one special character. -/
def isSpecial (c : Char) : Bool :=
  c.isDigit || ['@', '*', '#', '?', '-', '$', '!'].contains c

/-- The name and the value that a word assigns, if it is an assignment: a name that is not
quoted, and an equals sign. -/
def Word.assignment? : Word → Option (Text × Word)
  | [] => none
  | .plain c :: rest =>
      if isNameStart c then go [c] rest else none
  | _ => none
where
  /-- Go on with the name, whose characters come in reverse. -/
  go (name : Text) : Word → Option (Text × Word)
    | .plain c :: rest =>
        if isNameChar c then go (c :: name) rest
        else if c = '=' then some (name.reverse, rest)
        else none
    | _ => none

/-- The bytes that separate fields without marking them off: space, tab and line feed. -/
def isWhite (c : Char) : Bool := c == ' ' || c == '\t' || c == '\n'

/-- The bytes that count as space in front of numbers. -/
def isSpacing (c : Char) : Bool := c == ' ' || (0x09 ≤ c.toNat && c.toNat ≤ 0x0D)

end Reroute.Shell

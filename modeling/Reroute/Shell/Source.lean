import Reroute.Shell.Command

/-!
The text that a script is read from, and how far the reading is.  An alias puts its value in
front of the text that follows it; while that value is read the alias does not apply again.
-/
namespace Reroute.Shell

/-- A syntax error: the line, and what is wrong there. -/
structure SyntaxError where
  line : Nat
  reason : Text
deriving Repr, DecidableEq

/-- Text to be read: the script, or the value of an alias. -/
structure Portion where
  rest : Text
  alias? : Option Text
  endsBlank : Bool

/-- A token.  Operators and reserved words are known by their spelling. -/
inductive Token where
  | finish
  | newline
  | word
  | redirection
  | symbol (spelling : String)
deriving Repr, DecidableEq

/-- How a token reads in messages. -/
def Token.description : Token → Text
  | .finish => "end of file".toList
  | .newline => "newline".toList
  | .word => "word".toList
  | .redirection => "redirection".toList
  | .symbol spelling => '"' :: spelling.toList ++ ['"']

/-- What is to be looked for in front of the next token and in it: line ends to skip, reserved
words, aliases, or the word that ends a document. -/
structure Expectation where
  lines : Bool := false
  reserved : Bool := false
  aliases : Bool := false
  mark : Bool := false

/-- A document whose text has yet to be read: its number, the line that ends it, whether tabs
in front of lines are dropped, and whether nothing in it is expanded. -/
structure Awaited where
  number : Nat
  mark : Text
  dropTabs : Bool
  verbatim : Bool

/-- A redirection whose target has yet to be read. -/
inductive Opened where
  | file (descriptor : Nat) (opening : Opening)
  | copy (descriptor : Nat)
  | here (descriptor : Nat) (dropTabs : Bool)

/-- A reading of a script: the text that is left, the innermost portion first, the aliases
whose values were just read to the end, and the last token with the word it brought. -/
structure Reading where
  portions : List Portion
  ended : List Text
  line : Nat
  repeated : Bool
  last : Token
  expectation : Expectation
  quoted : Bool
  word : Word
  opened : Opened
  awaited : List Awaited
  documents : List (Nat × Word)
  nextDocument : Nat
  aliases : List (Text × Text)

/-- A reading that may fail. -/
abbrev Reader := StateT Reading (Except SyntaxError)

/-- The ways that commands stand in others: by themselves, in parentheses behind a dollar
sign, or between backquotes. -/
inductive Nesting where
  | command
  | parentheses
  | backquotes
deriving Repr, DecidableEq

/-- The readers of what stands one level deeper. -/
abbrev Nested := Nesting → Reader Command

namespace Reader

/-- Begin to read a text. -/
def begin (text : Text) (aliases : List (Text × Text)) (nextDocument : Nat) : Reading where
  portions := [⟨text, none, false⟩]
  ended := []
  line := 1
  repeated := false
  last := .newline
  expectation := {}
  quoted := false
  word := []
  opened := .copy 0
  awaited := []
  documents := []
  nextDocument := nextDocument
  aliases := aliases

/-- Fail at the line that is read. -/
def fail {α : Type} (reason : Text) : Reader α := do
  throw ⟨(← get).line, reason⟩

/-- Count a line. -/
def countLine : Reader Unit :=
  modify fun reading => { reading with line := reading.line + 1 }

/-- Drop the portions that were read to their ends.  A blank at the end of an alias lets the
next word be one as well. -/
def dropEnded : List Portion → List Portion × List Text × Bool
  | [] => ([], [], false)
  | [last] => ([last], [], false)
  | portion :: outer =>
      if portion.rest.isEmpty then
        let (portions, ended, blank) := dropEnded outer
        (portions, portion.alias?.toList ++ ended,
          blank || (portion.alias?.isSome && portion.endsBlank))
      else (portion :: outer, [], false)

/-- The next character. -/
def next : Reader (Option Char) := do
  let reading ← get
  let (portions, ended, blank) := dropEnded reading.portions
  let expectation :=
    if blank then { reading.expectation with aliases := true } else reading.expectation
  match portions with
  | { rest := c :: rest, alias? := alias?, endsBlank := endsBlank } :: outer =>
      set { reading with
        portions := ⟨rest, alias?, endsBlank⟩ :: outer
        ended := ended
        expectation := expectation }
      pure (some c)
  | portions =>
      set { reading with portions := portions, ended := ended, expectation := expectation }
      pure none

/-- Give characters back to be read again. -/
def giveBack (text : Text) : Reader Unit :=
  modify fun reading =>
    match reading.portions with
    | portion :: outer =>
        { reading with portions := { portion with rest := text ++ portion.rest } :: outer }
    | [] => reading

/-- The next character, where a backslash at the end of a line joins it with the next line.
The fuel bounds the number of lines that are joined. -/
def nextJoined : Nat → Reader (Option Char)
  | 0 => next
  | fuel + 1 => do
      match ← next with
      | some '\\' =>
          match ← next with
          | some '\n' => do
              countLine
              nextJoined fuel
          | some c => do
              giveBack [c]
              pure (some '\\')
          | none => pure (some '\\')
      | c => pure c

/-- The number of steps that one loop of the reading may take. -/
def stepLimit : Nat := 100000000

/-- The next character of joined lines. -/
def char : Reader (Option Char) := nextJoined stepLimit

/-- Step over a character if it comes next. -/
def accept (c : Char) : Reader Bool := do
  match ← char with
  | some d => if d = c then pure true else do
      giveBack [d]
      pure false
  | none => pure false

/-- Give back a character, if there was one. -/
def giveBackChar (c : Option Char) : Reader Unit := giveBack c.toList

/-- Put the value of an alias in front of the text that is left. -/
def insertAlias (name value : Text) : Reader Unit :=
  modify fun reading =>
    let blank := match value.getLast? with
      | some c => c == ' ' || c == '\t'
      | none => false
    { reading with portions := ⟨value, some name, blank⟩ :: reading.portions }

/-- The value of an alias that is not being read. -/
def alias? (name : Text) : Reader (Option Text) := do
  let reading ← get
  let active := reading.portions.filterMap Portion.alias? ++ reading.ended
  pure (if active.contains name then none else reading.aliases.lookup name)

/-- Read another text in between, and go on with the rest of this one behind it. -/
def within {α : Type} (text : Text) (read : Reader α) : Reader α := do
  let before ← get
  set { before with portions := [⟨text, none, false⟩], ended := [], line := 1 }
  let result ← read
  modify fun after =>
    { after with portions := before.portions, ended := before.ended, line := before.line }
  pure result

end Reader

end Reroute.Shell

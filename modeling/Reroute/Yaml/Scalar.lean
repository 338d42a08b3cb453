import Reroute.Text.Numeral
import Reroute.Yaml.Cursor

/-!
The scalars of a YAML text: plain, quoted with one or two marks, and blocks of lines.  In
all but literal blocks a line break between words folds to a space, and further empty lines
stay as line feeds.
-/
namespace Reroute.Yaml

/-! ### Runs of white space -/

/-- The number of line breaks in a run of white space. -/
def breakCount : Text → Nat
  | [] => 0
  | '\r' :: '\n' :: rest => breakCount rest + 1
  | c :: rest => if isBreak c then breakCount rest + 1 else breakCount rest

/-- `n` line feeds. -/
def lineFeeds (n : Nat) : Text := List.replicate n '\n'

/-- What a run of white space between words stands for. -/
def fold (run : Text) : Text :=
  match breakCount run with
  | 0 => run
  | 1 => [' ']
  | n + 1 => lineFeeds n

/-- The white space from here on. -/
def whiteSpace (cursor : Cursor) : Text :=
  cursor.takeWhile fun c => isSpace c || isBreak c

/-! ### Quoted scalars -/

/-- The character of an escape of one letter. -/
def escaped? (c : Char) : Option Char :=
  [('0', '\x00'), ('a', '\x07'), ('b', '\x08'), ('t', '\t'), ('\t', '\t'), ('n', '\n'),
    ('v', '\x0b'), ('f', '\x0c'), ('r', '\r'), ('e', '\x1b'), (' ', ' '), ('"', '"'),
    ('\'', '\''), ('\\', '\\'), ('N', '\u0085'), ('_', '\u00a0'), ('L', '\u2028'),
    ('P', '\u2029')].lookup c

/-- The number of digits behind the letter of a numeric escape. -/
def escapeWidth? : Char → Option Nat
  | 'x' => some 2
  | 'u' => some 4
  | 'U' => some 8
  | _ => none

/-- Read an escape behind its backslash. -/
def readEscape (cursor : Cursor) : Option (Char × Cursor) :=
  match escapeWidth? cursor.peek with
  | some width => do
      let digits := cursor.skip.rest.take width
      let n ← if digits.length = width then Hex.value? digits else none
      if h : n.isValidChar then
        pure (Char.ofNatAux n h, cursor.skipMany (width + 1))
      else none
  | none => do
      let c ← escaped? cursor.peek
      pure (c, cursor.skip)

/-- Read a quoted scalar behind its opening mark.  Every step uses up a character, which is
what the fuel counts. -/
def readQuoted (mark : Char) : Nat → Cursor → Text → Option (Text × Cursor)
  | 0, _, _ => none
  | fuel + 1, cursor, done =>
      let c := cursor.peek
      if cursor.atEnd || cursor.atDocumentMark then none
      else if c = mark then
        if mark = '\'' ∧ cursor.look 1 = mark then
          readQuoted mark fuel cursor.skip.skip (done ++ [mark])
        else some (done, cursor.skip)
      else if isSpace c || isBreak c then
        let run := whiteSpace cursor
        readQuoted mark fuel (cursor.skipMany run.length) (done ++ fold run)
      else if c = '\\' ∧ mark = '"' then
        if isBreak (cursor.look 1) then
          let cursor := cursor.skip.skipBreak
          let run := whiteSpace cursor
          readQuoted mark fuel (cursor.skipMany run.length)
            (done ++ lineFeeds (breakCount run))
        else do
          let (c, cursor) ← readEscape cursor.skip
          readQuoted mark fuel cursor (done ++ [c])
      else readQuoted mark fuel cursor.skip (done ++ [c])

/-! ### Plain scalars -/

/-- Whether a plain scalar ends before the character at the cursor. -/
def endsPlain (inFlow : Bool) (cursor : Cursor) : Bool :=
  let c := cursor.peek
  isGap c || (c == ':' && (isGap (cursor.look 1) || (inFlow && isFlowMark (cursor.look 1)))) ||
    (inFlow && isFlowMark c)

/-- Read a word of a plain scalar. -/
def readWord (inFlow : Bool) : Nat → Cursor → Text × Cursor
  | 0, cursor => ([], cursor)
  | fuel + 1, cursor =>
      if endsPlain inFlow cursor then ([], cursor)
      else
        let (word, rest) := readWord inFlow fuel cursor.skip
        (cursor.peek :: word, rest)

/-- Whether a tab stands for indentation in a run of white space: behind a line break and
before the column where the scalar may go on. -/
def tabIndents (indent : Int) (afterBreak : Bool) : Nat → Cursor → Bool
  | 0, _ => false
  | fuel + 1, cursor =>
      let c := cursor.peek
      if isBreak c then tabIndents indent true fuel cursor.skipBreak
      else if isSpace c then
        (afterBreak && c == '\t' && (cursor.column : Int) < indent) ||
          tabIndents indent afterBreak fuel cursor.skip
      else false

/-- A plain scalar that has been read, and whether a line break follows it. -/
structure Plain where
  text : Text
  brokenOff : Bool
  cursor : Cursor

/-- Read a plain scalar whose lines are indented by `indent` at least.  `run` is the white
space behind what is done; a scalar may begin with some, where a tab stands first. -/
def readPlain (inFlow : Bool) (indent : Int) : Nat → Cursor → Text → Text → Option Plain
  | 0, _, _, _ => none
  | fuel + 1, cursor, done, run =>
      if cursor.atDocumentMark || cursor.peek = '#' then
        some ⟨done, breakCount run != 0, cursor⟩
      else
        let (word, cursor) := readWord inFlow cursor.rest.length cursor
        let done := if word.isEmpty then done else done ++ fold run ++ word
        let next := whiteSpace cursor
        let after := cursor.skipMany next.length
        if next.isEmpty then some ⟨done, word.isEmpty && breakCount run != 0, cursor⟩
        else if tabIndents indent false next.length cursor then none
        else if !inFlow && (after.column : Int) < indent then
          some ⟨done, breakCount next != 0, after⟩
        else readPlain inFlow indent fuel after done next

/-! ### Block scalars -/

/-- What becomes of the line breaks at the end of a block. -/
inductive Chomping where
  | strip
  | clip
  | keep
deriving Repr, DecidableEq

/-- Read a mark of chomping. -/
def readChomping? (cursor : Cursor) : Option (Chomping × Cursor) :=
  if cursor.peek = '+' then some (.keep, cursor.skip)
  else if cursor.peek = '-' then some (.strip, cursor.skip)
  else none

/-- Read a mark of indentation: a digit from 1 to 9, or nothing. -/
def readIncrement (cursor : Cursor) : Option (Nat × Cursor) :=
  if cursor.peek = '0' then none
  else if cursor.peek.isDigit then some (cursor.peek.toNat - '0'.toNat, cursor.skip)
  else some (0, cursor)

/-- Read the marks of a block scalar, which come in either order. -/
def readBlockMarks (cursor : Cursor) : Option (Chomping × Nat × Cursor) :=
  match readChomping? cursor with
  | some (chomping, cursor) => do
      let (increment, cursor) ← readIncrement cursor
      pure (chomping, increment, cursor)
  | none => do
      let (increment, cursor) ← readIncrement cursor
      match if increment = 0 then none else readChomping? cursor with
      | some (chomping, cursor) => pure (chomping, increment, cursor)
      | none => pure (.clip, increment, cursor)

/-- Step over the spaces a line of a block begins with, up to its indentation where that is
known. -/
def skipIndent (indent : Option Nat) : Nat → Cursor → Cursor
  | 0, cursor => cursor
  | fuel + 1, cursor =>
      if cursor.peek = ' ' ∧ indent.all fun n => cursor.column < n then
        skipIndent indent fuel cursor.skip
      else cursor

/-- The empty lines of a block before its next line: their number, the deepest column that
was reached, and the place behind them. -/
structure Gap where
  breaks : Nat
  deepest : Nat
  cursor : Cursor

/-- Step over empty lines and the indentation of the line behind them.  A tab may not stand
for indentation. -/
def readGap (indent : Option Nat) : Nat → Gap → Option Gap
  | 0, _ => none
  | fuel + 1, gap =>
      let cursor := skipIndent indent gap.cursor.rest.length gap.cursor
      let deepest := max gap.deepest cursor.column
      if cursor.peek = '\t' ∧ indent.all fun n => cursor.column < n then none
      else if isBreak cursor.peek then
        readGap indent fuel ⟨gap.breaks + 1, deepest, cursor.skipBreak⟩
      else some ⟨gap.breaks, deepest, cursor⟩

/-- The lines of a block as they are put together: the text so far, whether a line break is
due, the empty lines behind it, and whether the last line began with white space. -/
structure BlockText where
  text : Text
  breakDue : Bool
  breaks : Nat
  lastBlank : Bool

/-- Put a line behind the lines of a block. -/
def BlockText.add (block : BlockText) (literal : Bool) (line : Text) : Text :=
  let blank := (line.head?.map isSpace).getD false
  let joint :=
    if !literal && block.breakDue && !block.lastBlank && !blank then
      if block.breaks = 0 then [' '] else []
    else if block.breakDue then ['\n'] else []
  block.text ++ joint ++ lineFeeds block.breaks ++ line

/-- Read the lines of a block. -/
def readBlockLines (literal : Bool) (indent : Nat) :
    Nat → Cursor → BlockText → Option (BlockText × Cursor)
  | 0, _, _ => none
  | fuel + 1, cursor, block =>
      if cursor.column = indent ∧ !cursor.atEnd then do
        let line := cursor.takeWhile fun c => !isBreak c
        let text := block.add literal line
        let blank := (line.head?.map isSpace).getD false
        let cursor := cursor.skipLine
        if cursor.atEnd then pure (⟨text, false, 0, blank⟩, cursor)
        else do
          let cursor := cursor.skipBreak
          let gap ← readGap (some indent) (cursor.rest.length + 1) ⟨0, 0, cursor⟩
          readBlockLines literal indent fuel gap.cursor ⟨text, true, gap.breaks, blank⟩
      else some (block, cursor)

/-- Read a block scalar behind its opening mark, in a collection whose column is `parent`. -/
def readBlock (literal : Bool) (parent : Int) (cursor : Cursor) : Option (Text × Cursor) := do
  let (chomping, increment, cursor) ← readBlockMarks cursor
  let cursor ← cursor.skipToLineEnd?
  let cursor := if cursor.atEnd then cursor else cursor.skipBreak
  let given : Option Nat :=
    if increment = 0 then none else some ((max parent 0).toNat + increment)
  let gap ← readGap given (cursor.rest.length + 1) ⟨0, 0, cursor⟩
  let indent := given.getD (max gap.deepest (max (parent + 1).toNat 1))
  let (block, cursor) ←
    readBlockLines literal indent (gap.cursor.rest.length + 1) gap.cursor
      ⟨[], false, gap.breaks, false⟩
  let tail := match chomping with
    | .strip => []
    | .clip => if block.breakDue then ['\n'] else []
    | .keep => (if block.breakDue then ['\n'] else []) ++ lineFeeds block.breaks
  pure (block.text ++ tail, cursor)

end Reroute.Yaml

import Reroute.Text.Basic

/-!
A place in a YAML text.  Columns decide about nesting, so every step keeps count of lines
and columns; a carriage return alone is a line break that begins no new column count.
-/
namespace Reroute.Yaml

/-- What the end of a text reads as. -/
def endMark : Char := '\x00'

/-- Whether a character breaks a line. -/
def isBreak (c : Char) : Bool := c == '\n' || c == '\r'

/-- Whether a character is a space or a tab. -/
def isSpace (c : Char) : Bool := c == ' ' || c == '\t'

/-- Whether a token ends before a character: at spaces, line breaks and the end. -/
def isGap (c : Char) : Bool := isSpace c || isBreak c || c == endMark

/-- Whether a character is a bracket or comma of a flow collection. -/
def isFlowMark (c : Char) : Bool :=
  c == ',' || c == '[' || c == ']' || c == '\x7b' || c == '\x7d'

/-- The characters of names. -/
def isNameChar (c : Char) : Bool := c.isAlphanum || c == '_' || c == '-'

/-- A place in a text: what is left of it, and how far it is from the start. -/
structure Cursor where
  rest : Text
  index : Nat
  line : Nat
  column : Nat
deriving Repr, DecidableEq

namespace Cursor

/-- The start of a text.  A NUL character ends the text. -/
def start (s : Text) : Cursor :=
  ⟨s.takeWhile fun c => c != endMark, 0, 0, 0⟩

/-- The character `n` places ahead. -/
def look (cursor : Cursor) (n : Nat) : Char :=
  cursor.rest.getD n endMark

/-- The character at the cursor. -/
def peek (cursor : Cursor) : Char := cursor.look 0

/-- Whether the text has ended. -/
def atEnd (cursor : Cursor) : Bool := cursor.rest.isEmpty

/-- Step over a character. -/
def skip (cursor : Cursor) : Cursor :=
  match cursor.rest with
  | [] => cursor
  | '\n' :: rest => ⟨rest, cursor.index + 1, cursor.line + 1, 0⟩
  | _ :: rest => ⟨rest, cursor.index + 1, cursor.line, cursor.column + 1⟩

/-- Step over `n` characters. -/
def skipMany (cursor : Cursor) : Nat → Cursor
  | 0 => cursor
  | n + 1 => cursor.skip.skipMany n

/-- Step over a line break, of one or two characters. -/
def skipBreak (cursor : Cursor) : Cursor :=
  if cursor.peek = '\r' ∧ cursor.look 1 = '\n' then cursor.skip.skip else cursor.skip

/-- The characters from here on that pass a test. -/
def takeWhile (cursor : Cursor) (test : Char → Bool) : Text :=
  cursor.rest.takeWhile test

/-- Step over the characters that pass a test. -/
def skipWhile (cursor : Cursor) (test : Char → Bool) : Cursor :=
  cursor.skipMany (cursor.takeWhile test).length

/-- Step over what is left of the line. -/
def skipLine (cursor : Cursor) : Cursor :=
  cursor.skipWhile fun c => !isBreak c

/-- Step over spaces and a comment to the end of the line, which has to follow. -/
def skipToLineEnd? (cursor : Cursor) : Option Cursor :=
  let cursor := cursor.skipWhile isSpace
  let cursor := if cursor.peek = '#' then cursor.skipLine else cursor
  if isBreak cursor.peek || cursor.atEnd then some cursor else none

/-- Whether three marks of a kind stand alone at the start of a line. -/
def atTriple (cursor : Cursor) (mark : Char) : Bool :=
  cursor.column == 0 && cursor.look 0 == mark && cursor.look 1 == mark &&
    cursor.look 2 == mark && isGap (cursor.look 3)

/-- Whether a mark between documents stands here. -/
def atDocumentMark (cursor : Cursor) : Bool :=
  cursor.atTriple '-' || cursor.atTriple '.'

end Cursor

end Reroute.Yaml

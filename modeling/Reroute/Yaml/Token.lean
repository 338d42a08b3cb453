import Reroute.Yaml.Scalar

/-!
The tokens of a YAML text.  Columns become tokens of their own: a collection begins where a
column exceeds the one before, and ends where a line falls back.  That a scalar was a key is
known only at the colon behind it, so the tokens that open the entry are put in front of it
then.
-/
namespace Reroute.Yaml

/-- A token. -/
inductive Token where
  | directive
  | documentStart
  | documentEnd
  | blockSequence
  | blockMapping
  | blockEnd
  | openSequence
  | closeSequence
  | openMapping
  | closeMapping
  | entry
  | comma
  | key
  | value
  | alias (name : Text)
  | anchor (name : Text)
  | tag (handle suffix : Text)
  | scalar (plain : Bool) (text : Text)
deriving Repr, DecidableEq

/-- A token that may turn out to be a key: its place among the tokens and in the text.  A
required one has to. -/
structure PossibleKey where
  token : Nat
  index : Nat
  line : Nat
  column : Nat
  required : Bool
deriving Repr, DecidableEq

/-- The state of the scanning: the tokens so far, the columns of the open block collections,
and for every open flow collection, with the block around them last, what may be a key. -/
structure Scanner where
  cursor : Cursor
  tokens : Array Token
  indent : Int
  indents : List Int
  keyAllowed : Bool
  keys : List (Option PossibleKey)
  adjacentValueAt : Nat

namespace Scanner

/-- Scanning before the first token. -/
def start (s : Text) : Scanner :=
  ⟨Cursor.start s, #[], -1, [], true, [none], 0⟩

/-- The number of open flow collections. -/
def flowLevel (scanner : Scanner) : Nat := scanner.keys.length - 1

/-- Whether a flow collection is open. -/
def inFlow (scanner : Scanner) : Bool := scanner.flowLevel != 0

/-- The greatest distance between a key and its colon. -/
def maxKeyLength : Nat := 1024

/-- Whether a possible key lies too far back to be one: on another line, or too far away. -/
def isStale (cursor : Cursor) (key : PossibleKey) : Bool :=
  key.line < cursor.line || key.index + maxKeyLength < cursor.index

/-- Give up possible keys that lie too far back. -/
def dropStaleKeys (scanner : Scanner) : Option Scanner := do
  let keys ← scanner.keys.mapM fun key =>
    match key with
    | none => some none
    | some key =>
        if isStale scanner.cursor key then if key.required then none else some none
        else some (some key)
  pure { scanner with keys := keys }

/-- Give up the possible key of the innermost collection. -/
def dropKey (scanner : Scanner) : Option Scanner :=
  match scanner.keys with
  | some key :: rest =>
      if key.required then none else some { scanner with keys := none :: rest }
  | _ => some scanner

/-- Note that the next token may be a key. -/
def noteKey (scanner : Scanner) : Option Scanner :=
  if scanner.keyAllowed then do
    let scanner ← scanner.dropKey
    let cursor := scanner.cursor
    let required := scanner.inFlow && scanner.indent == (cursor.column : Int)
    let key : PossibleKey :=
      ⟨scanner.tokens.size, cursor.index, cursor.line, cursor.column, required⟩
    pure { scanner with keys := some key :: scanner.keys.tail }
  else some scanner

/-- Allow or forbid that a key begins here. -/
def allowKey (scanner : Scanner) (allowed : Bool) : Scanner :=
  { scanner with keyAllowed := allowed }

/-- Add a token that ends at a place. -/
def push (scanner : Scanner) (token : Token) (cursor : Cursor) : Scanner :=
  { scanner with tokens := scanner.tokens.push token, cursor := cursor }

/-- Put a token in front of another. -/
def insert (scanner : Scanner) (place : Nat) (token : Token) : Scanner :=
  { scanner with tokens := scanner.tokens.insertIdxIfInBounds place token }

/-- Begin a block collection, if the column exceeds that of the collection around it. -/
def openBlock (scanner : Scanner) (column place : Nat) (token : Token) : Scanner :=
  if !scanner.inFlow && scanner.indent < (column : Int) then
    { scanner.insert place token with
      indents := scanner.indent :: scanner.indents
      indent := column }
  else scanner

/-- End the block collections whose column exceeds a column. -/
def closeBlocks (column : Int) : Nat → Scanner → Scanner
  | 0, scanner => scanner
  | fuel + 1, scanner =>
      if scanner.inFlow || scanner.indent ≤ column then scanner
      else
        closeBlocks column fuel
          { scanner with
            tokens := scanner.tokens.push .blockEnd
            indent := scanner.indents.headD (-1)
            indents := scanner.indents.tail }

/-- End all block collections down to a column. -/
def close (scanner : Scanner) (column : Int) : Scanner :=
  closeBlocks column scanner.indents.length scanner

/-- Skip white space and comments.  A tab counts as white space where no key may begin. -/
def skipLayout : Nat → Scanner → Scanner
  | 0, scanner => scanner
  | fuel + 1, scanner =>
      let cursor := scanner.cursor
      let c := cursor.peek
      if c = ' ' then skipLayout fuel { scanner with cursor := cursor.skip }
      else if c = '\t' ∧ (scanner.inFlow ∨ !scanner.keyAllowed) then
        skipLayout fuel { scanner with cursor := cursor.skip }
      else if isBreak c then
        skipLayout fuel
          { scanner with
            cursor := cursor.skipBreak
            keyAllowed := scanner.keyAllowed || !scanner.inFlow }
      else if c = '#' then skipLayout fuel { scanner with cursor := cursor.skipLine }
      else scanner

/-! ### Directives and properties -/

/-- Read a number of a version: one to nine digits. -/
def skipVersionNumber? (cursor : Cursor) : Option Cursor :=
  let digits := cursor.takeWhile Char.isDigit
  if digits.isEmpty || 9 < digits.length then none else some (cursor.skipMany digits.length)

/-- Read the handle of a tag: an exclamation mark, and maybe a name with another behind it. -/
def readHandle? (cursor : Cursor) : Option (Text × Cursor) :=
  if cursor.peek = '!' then
    let name := cursor.skip.takeWhile isNameChar
    let after := cursor.skip.skipMany name.length
    if after.peek = '!' then some ('!' :: name ++ ['!'], after.skip)
    else some ('!' :: name, after)
  else none

/-- The characters of the rest of a tag. -/
def isTagChar (c : Char) : Bool :=
  isNameChar c ||
    [';', '/', '?', ':', '@', '&', '=', '+', '$', ',', '.', '!', '~', '*', '\'', '(', ')', '[',
      ']'].contains c

/-- Read the rest of a tag.  Escapes have two digits and stand for ASCII characters. -/
def readTagRest : Nat → Cursor → Option (Text × Cursor)
  | 0, cursor => some ([], cursor)
  | fuel + 1, cursor =>
      if cursor.peek = '%' then do
        let n ← Hex.value? [cursor.look 1, cursor.look 2]
        let (rest, after) ← readTagRest fuel (cursor.skipMany 3)
        if n < 128 then pure (Char.ofNat n :: rest, after) else none
      else if isTagChar cursor.peek then do
        let (rest, after) ← readTagRest fuel cursor.skip
        pure (cursor.peek :: rest, after)
      else some ([], cursor)

/-- Read the rest of a tag, which may not be empty. -/
def readTagUri? (cursor : Cursor) : Option (Text × Cursor) := do
  let (rest, cursor) ← readTagRest cursor.rest.length cursor
  if rest.isEmpty then none else some (rest, cursor)

/-- Skip the value of a version directive. -/
def skipVersion? (cursor : Cursor) : Option Cursor := do
  let cursor ← skipVersionNumber? (cursor.skipWhile isSpace)
  if cursor.peek = '.' then skipVersionNumber? cursor.skip else none

/-- Skip the value of a tag directive: a handle that ends with an exclamation mark, and what
it stands for. -/
def skipTagDirective? (cursor : Cursor) : Option Cursor := do
  let (handle, cursor) ← readHandle? (cursor.skipWhile isSpace)
  if handle = ['!'] ∨ handle.getLast? = some '!' then do
    let (_, cursor) ← readTagUri? (cursor.skipWhile isSpace)
    if isGap cursor.peek then some cursor else none
  else none

/-- Read a directive.  An unknown one is passed over. -/
def directive (scanner : Scanner) : Option Scanner := do
  let scanner ← (scanner.close (-1)).dropKey
  let cursor := scanner.cursor.skip
  let name := cursor.takeWhile isNameChar
  let cursor := cursor.skipMany name.length
  if name.isEmpty || !isGap cursor.peek then none
  else do
    let cursor ←
      if name = "YAML".toList then skipVersion? cursor
      else if name = "TAG".toList then skipTagDirective? cursor
      else some cursor.skipLine
    let cursor ← cursor.skipToLineEnd?
    let cursor := if cursor.atEnd then cursor else cursor.skipBreak
    pure ((scanner.allowKey false).push .directive cursor)

/-- Read a tag: in angle brackets, with a handle, or without. -/
def readTag? (cursor : Cursor) : Option (Token × Cursor) :=
  if cursor.look 1 = '<' then do
    let (suffix, cursor) ← readTagUri? cursor.skip.skip
    if cursor.peek = '>' then some (.tag [] suffix, cursor.skip) else none
  else do
    let (handle, cursor) ← readHandle? cursor
    if 2 ≤ handle.length ∧ handle.getLast? = some '!' then do
      let (suffix, cursor) ← readTagUri? cursor
      pure (.tag handle suffix, cursor)
    else do
      let (rest, cursor) ← readTagRest cursor.rest.length cursor
      match handle.tail ++ rest with
      | [] => pure (.tag [] ['!'], cursor)
      | suffix => pure (.tag ['!'] suffix, cursor)

/-- Add a token that may begin a key but is followed by none. -/
def property (scanner : Scanner) (token : Token) (cursor : Cursor) : Option Scanner := do
  let scanner ← scanner.noteKey
  pure ((scanner.allowKey false).push token cursor)

/-- Read a tag of a node. -/
def tag (scanner : Scanner) : Option Scanner := do
  let (token, cursor) ← readTag? scanner.cursor
  if isGap cursor.peek then scanner.property token cursor else none

/-- Read the name of an anchor or an alias. -/
def named (scanner : Scanner) (make : Text → Token) : Option Scanner :=
  let cursor := scanner.cursor.skip
  let name := cursor.takeWhile isNameChar
  let cursor := cursor.skipMany name.length
  let c := cursor.peek
  if !name.isEmpty && (isGap c || ['?', ':', ',', ']', '\x7d', '%', '@', '\x60'].contains c) then
    scanner.property (make name) cursor
  else none

/-! ### Collections -/

/-- Read a mark between documents. -/
def documentMark (scanner : Scanner) (token : Token) : Option Scanner := do
  let scanner ← (scanner.close (-1)).dropKey
  pure ((scanner.allowKey false).push token (scanner.cursor.skipMany 3))

/-- Begin a flow collection. -/
def openFlow (scanner : Scanner) (token : Token) : Option Scanner := do
  let scanner ← scanner.noteKey
  let scanner := { scanner with keys := none :: scanner.keys }
  pure ((scanner.allowKey true).push token scanner.cursor.skip)

/-- End a flow collection. -/
def closeFlow (scanner : Scanner) (token : Token) : Option Scanner := do
  let scanner ← scanner.dropKey
  let scanner :=
    if scanner.inFlow then { scanner with keys := scanner.keys.tail } else scanner
  pure ((scanner.allowKey false).push token scanner.cursor.skip)

/-- Read a comma. -/
def comma (scanner : Scanner) : Option Scanner := do
  let scanner ← scanner.dropKey
  pure ((scanner.allowKey true).push .comma scanner.cursor.skip)

/-- Read the mark of an entry of a block sequence. -/
def blockEntry (scanner : Scanner) : Option Scanner :=
  if scanner.inFlow || !scanner.keyAllowed then none
  else do
    let scanner := scanner.openBlock scanner.cursor.column scanner.tokens.size .blockSequence
    let scanner ← scanner.dropKey
    pure ((scanner.allowKey true).push .entry scanner.cursor.skip)

/-- Read the mark of a key. -/
def keyMark (scanner : Scanner) : Option Scanner :=
  if !scanner.inFlow && !scanner.keyAllowed then none
  else do
    let scanner := scanner.openBlock scanner.cursor.column scanner.tokens.size .blockMapping
    let scanner ← scanner.dropKey
    pure ((scanner.allowKey !scanner.inFlow).push .key scanner.cursor.skip)

/-- Read the colon of an entry.  Where a key lies in front of it, the tokens that open the
entry are put in front of the key. -/
def valueMark (scanner : Scanner) : Option Scanner :=
  match scanner.keys with
  | some key :: rest =>
      let scanner := scanner.insert key.token .key
      let scanner := scanner.openBlock key.column key.token .blockMapping
      let scanner := { scanner with keys := none :: rest }
      some ((scanner.allowKey false).push .value scanner.cursor.skip)
  | _ =>
      if !scanner.inFlow && !scanner.keyAllowed then none
      else
        let scanner :=
          scanner.openBlock scanner.cursor.column scanner.tokens.size .blockMapping
        some ((scanner.allowKey !scanner.inFlow).push .value scanner.cursor.skip)

/-! ### Scalars -/

/-- Read a block scalar. -/
def blockScalar (scanner : Scanner) (literal : Bool) : Option Scanner := do
  let scanner ← scanner.noteKey
  let (text, cursor) ← readBlock literal scanner.indent scanner.cursor.skip
  pure ((scanner.allowKey true).push (.scalar false text) cursor)

/-- Read a quoted scalar.  Directly behind it a colon may stand in a flow collection. -/
def quotedScalar (scanner : Scanner) (mark : Char) : Option Scanner := do
  let scanner ← scanner.noteKey
  let cursor := scanner.cursor.skip
  let (text, cursor) ← readQuoted mark (cursor.rest.length + 1) cursor []
  let scanner := { scanner with adjacentValueAt := cursor.index }
  pure ((scanner.allowKey false).push (.scalar false text) cursor)

/-- Read a plain scalar. -/
def plainScalar (scanner : Scanner) : Option Scanner := do
  let scanner ← scanner.noteKey
  let cursor := scanner.cursor
  let plain ←
    readPlain scanner.inFlow (scanner.indent + 1) (cursor.rest.length + 1) cursor [] []
  pure ((scanner.allowKey plain.brokenOff).push (.scalar true plain.text) plain.cursor)

/-! ### All tokens -/

/-- Whether a colon at the cursor is the mark of a value. -/
def atValueMark (scanner : Scanner) : Bool :=
  let next := scanner.cursor.look 1
  scanner.cursor.peek == ':' &&
    (isGap next ||
      (scanner.inFlow &&
        (isFlowMark next || scanner.cursor.index == scanner.adjacentValueAt)))

/-- Read the token at the cursor. -/
def token (scanner : Scanner) : Option Scanner :=
  let cursor := scanner.cursor
  let loose := isGap (cursor.look 1)
  if cursor.column = 0 ∧ cursor.peek = '%' then scanner.directive
  else if cursor.atTriple '-' then scanner.documentMark .documentStart
  else if cursor.atTriple '.' then scanner.documentMark .documentEnd
  else if scanner.atValueMark then scanner.valueMark
  else
    match cursor.peek with
    | '[' => scanner.openFlow .openSequence
    | ']' => scanner.closeFlow .closeSequence
    | '\x7b' => scanner.openFlow .openMapping
    | '\x7d' => scanner.closeFlow .closeMapping
    | ',' => scanner.comma
    | '-' => if loose then scanner.blockEntry else scanner.plainScalar
    | '?' => if loose then scanner.keyMark else scanner.plainScalar
    | '*' => scanner.named .alias
    | '&' => scanner.named .anchor
    | '!' => scanner.tag
    | '|' => if scanner.inFlow then scanner.plainScalar else scanner.blockScalar true
    | '>' => if scanner.inFlow then scanner.plainScalar else scanner.blockScalar false
    | '\'' => scanner.quotedScalar '\''
    | '"' => scanner.quotedScalar '"'
    | '%' => none
    | '@' => none
    | '\x60' => none
    | _ => scanner.plainScalar

/-- Read the tokens up to the end.  Every token uses up a character, which is what the fuel
counts. -/
def run : Nat → Scanner → Option Scanner
  | 0, _ => none
  | fuel + 1, scanner => do
      let scanner ← (skipLayout (scanner.cursor.rest.length + 1) scanner).dropStaleKeys
      let scanner := scanner.close scanner.cursor.column
      if scanner.cursor.atEnd then (scanner.close (-1)).dropKey
      else run fuel (← scanner.token)

end Scanner

/-- The tokens of a text. -/
def tokens? (s : Text) : Option (List Token) :=
  (Scanner.run (s.length + 1) (.start s)).map fun scanner => scanner.tokens.toList

end Reroute.Yaml

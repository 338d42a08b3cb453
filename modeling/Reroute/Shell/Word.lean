import Reroute.Shell.Source

/-!
The reading of words.  What a character means depends on the quotes, braces and parentheses
around it; each expression and each operand that is read by rules of its own is a level of
the reading.  Commands in a word are read by readers that are given.
-/
namespace Reroute.Shell

/-- The rules that characters are read by. -/
inductive Mode where
  | base
  | double
  | single
  | arithmetic
deriving Repr, DecidableEq

/-- A level of the reading: its rules, whether it stands in double quotes, whether quotes
were opened in its braces, whether it ends with its last brace, and the numbers of open
braces, of those in double quotes, and of open parentheses. -/
structure Level where
  mode : Mode
  double : Bool
  inner : Bool := false
  operand : Bool := false
  braces : Nat := 0
  doubleBraces : Nat := 0
  parentheses : Nat := 0

/-- What encloses the pieces that are being read. -/
inductive Enclosure where
  | parameter (name : Text) (use : Use)
  | arithmetic

/-- A word while it is read: its levels, the innermost first, the pieces of the innermost
enclosure in reverse, and the enclosures with the pieces in front of them. -/
structure Building where
  level : Level
  outer : List Level
  pieces : List Piece
  enclosures : List (Enclosure × List Piece)
  quoted : Bool

namespace Building

/-- Begin a word. -/
def start (mode : Mode) : Building where
  level := { mode := mode, double := mode = .double }
  outer := []
  pieces := []
  enclosures := []
  quoted := false

/-- Add a piece. -/
def add (b : Building) (piece : Piece) : Building := { b with pieces := piece :: b.pieces }

/-- Add a character as it stands. -/
def put (b : Building) (c : Char) : Building := b.add (.plain c)

/-- Begin a level. -/
def descend (b : Building) (level : Level) : Building :=
  { b with level := level, outer := b.level :: b.outer }

/-- End a level. -/
def ascend (b : Building) : Building :=
  match b.outer with
  | level :: outer => { b with level := level, outer := outer }
  | [] => b

/-- Begin an enclosure. -/
def enclose (b : Building) (enclosure : Enclosure) : Building :=
  { b with pieces := [], enclosures := (enclosure, b.pieces) :: b.enclosures }

/-- End an enclosure. -/
def complete (b : Building) : Building :=
  match b.enclosures with
  | (enclosure, before) :: enclosures =>
      let piece := match enclosure with
        | .parameter name use => .parameter name use b.pieces.reverse
        | .arithmetic => .arithmetic b.pieces.reverse
      { b with pieces := piece :: before, enclosures := enclosures }
  | [] => b

/-- Open or close a quote: in a document no mark is left of it. -/
def quote (b : Building) (document : Bool) : Building :=
  if document then b else b.add .mark

/-- Note that quotes open or close in the braces of a level. -/
def toggle (b : Building) : Building :=
  if b.level.braces = 0 then b
  else { b with level := { b.level with inner := !b.level.inner } }

/-- End a brace. -/
def closeBrace (b : Building) : Building :=
  let level := { b.level with braces := b.level.braces - 1 }
  let b := { b with level := level }
  if level.braces = 0 && level.operand then b.ascend.complete
  else ({ b with level := { level with doubleBraces := level.doubleBraces - 1 } }).complete

end Building

namespace Reader

/-- The characters that quotes protect from being taken for patterns and for marks of home
directories. -/
def isProtected (c : Char) : Bool := "!*?[=~:/-]".toList.contains c

/-- The characters that end a word. -/
def endsWord (c : Char) : Bool :=
  [' ', '\t', '\n', ';', '&', '|', '<', '>', '(', ')'].contains c

/-- Whether a backslash in double quotes takes the special meaning from a character. -/
def isEscapable (document : Bool) (level : Level) (c : Char) : Bool :=
  c == '\\' || c == '\x60' || c == '$' || (c == '"' && !(document && level.braces = 0)) ||
    (c == '}' && level.braces != 0)

/-- Read on from a line, or find that it ends the document: then there is no character.  The
first character of the line was read already. -/
def lineStart (ending? : Option Awaited) (c : Option Char) : Reader (Option Char) := do
  match ending? with
  | none => pure c
  | some ending => do
      let c ← dropTabs stepLimit ending.dropTabs c
      let (same, passed, c) ← compare ending.mark c []
      if same && (c.isNone || c == some '\n') then
        if c.isSome then countLine
        pure none
      else
        match passed.reverse ++ c.toList with
        | [] => pure none
        | first :: rest => do
            giveBack rest
            pure (some first)
where
  /-- Step over the tabs in front of a line. -/
  dropTabs : Nat → Bool → Option Char → Reader (Option Char)
    | fuel + 1, true, some '\t' => do dropTabs fuel true (← next)
    | _, _, c => pure c
  /-- Step over a line as far as it agrees with the one that ends the document.  What was
  passed comes in reverse, in front of the character that was read last. -/
  compare : Text → Option Char → Text → Reader (Bool × Text × Option Char)
    | [], c, passed => pure (true, passed, c)
    | d :: mark, some c, passed =>
        if c = d then do compare mark (← next) (c :: passed)
        else pure (false, passed, some c)
    | _ :: _, none, passed => pure (false, passed, none)

/-- Read a name, whose first character was read already, and the character behind it. -/
def nameFrom (test : Char → Bool) : Nat → Char → Reader (Text × Option Char)
  | 0, c => pure ([c], none)
  | fuel + 1, c => do
      match ← char with
      | some d =>
          if test d then do
            let (name, after) ← nameFrom test fuel d
            pure (c :: name, after)
          else pure ([c], some d)
      | none => pure ([c], none)

/-- What the name of a parameter tells of its use, before any operator. -/
inductive Found where
  | free
  | length
  | broken

/-- Read the name of a parameter in braces, whose first character was read already, and the
character behind it. -/
def bracedName (c : Option Char) : Reader (Found × Text × Option Char) := do
  match c with
  | none => do
      -- There is no name in front of the end, and none behind it.
      pure (.broken, [], none)
  | some c =>
      if isNameStart c then do
        let (name, after) ← nameFrom isNameChar stepLimit c
        pure (.free, name, after)
      else if c.isDigit then do
        let (name, after) ← nameFrom Char.isDigit stepLimit c
        pure (.free, name, after)
      else if c = '}' then pure (.broken, [], some c)
      else do
        let after ← char
        if c = '#' then
          match after with
          | some d =>
              if isNameStart d then do
                let (name, after) ← nameFrom isNameChar stepLimit d
                pure (.length, name, after)
              else if d.isDigit then do
                let (name, after) ← nameFrom Char.isDigit stepLimit d
                pure (.length, name, after)
              else do
                let behind ← char
                if d = '}' || behind != some '}' then do
                  giveBackChar behind
                  pure (.free, [c], some d)
                else if isSpecial d then pure (.length, [d], behind)
                else pure (.broken, [], behind)
          | none => pure (.free, [c], none)
        else if isSpecial c then pure (.free, [c], after)
        else pure (.broken, [], after)

/-- Read the operator behind the name of a parameter, whose first character was read already.
The second component tells whether no operand follows, and the third whether the operand is
read by the rules of words. -/
def operator (c : Option Char) : Reader (Use × Bool × Bool) := do
  match c with
  | some ':' => do
      let use : Use := match ← char with
        | some '-' => .fallback true
        | some '+' => .replacement true
        | some '?' => .complaint true
        | some '=' => .assignment true
        | some '}' => .lastValue
        | _ => .unknown
      pure (use, false, false)
  | some '%' => do pure (.cutEnd (← accept '%'), false, true)
  | some '#' => do pure (.cutStart (← accept '#'), false, true)
  | some '}' => pure (.value, true, false)
  | some '-' => pure (.fallback false, false, false)
  | some '+' => pure (.replacement false, false, false)
  | some '?' => pure (.complaint false, false, false)
  | some '=' => pure (.assignment false, false, false)
  | _ => pure (.unknown, false, false)

/-- Read the rest of an expansion in braces. -/
def braced (b : Building) : Reader Building := do
  let (found, name, after) ← bracedName (← char)
  let (use, closed, ownRules) ← match found with
    | .free => operator after
    | .length => do
        giveBackChar after
        pure (if after == some '}' then Use.length else Use.unknown, false, false)
    | .broken => do
        giveBackChar after
        pure (.unknown, false, false)
  if closed then pure (b.add (.parameter name use []))
  else
    let mode := if ownRules then .base else if b.level.mode = .arithmetic then .double else
      b.level.mode
    let b := if mode != b.level.mode || b.level.inner then
        b.descend { mode := mode, double := mode != .base, operand := true }
      else b
    let level := { b.level with
      braces := b.level.braces + 1
      doubleBraces := b.level.doubleBraces + if b.level.double then 1 else 0 }
    pure (({ b with level := level }).enclose (.parameter name use))

/-- Read an expansion behind its dollar sign. -/
def dollar (below : Nested) (b : Building) : Reader Building := do
  let c ← char
  let isMark := (← get).expectation.mark
  match isMark, c with
  | false, some '(' => do
      if ← accept '(' then
        pure ((b.descend { mode := .arithmetic, double := true }).enclose .arithmetic)
      else
        let before := (← get).awaited
        modify fun reading => { reading with awaited := [] }
        let script ← below .parentheses
        modify fun reading => { reading with awaited := before }
        pure (b.add (.output script))
  | false, some '{' => braced b
  | false, some c =>
      if isNameStart c then do
        let (name, after) ← nameFrom isNameChar stepLimit c
        giveBackChar after
        pure (b.add (.parameter name .value []))
      else if isSpecial c then pure (b.add (.parameter [c] .value []))
      else do
        giveBack [c]
        pure (b.put '$')
  | _, c => do
      giveBackChar c
      pure (b.put '$')

/-- Read the text between backquotes, where some backslashes take the special meaning from
what follows. -/
def backquoted (double : Bool) : Nat → Reader Text
  | 0 => pure []
  | fuel + 1 => do
      match ← char with
      | none => fail "EOF in backquote substitution".toList
      | some '\x60' => pure []
      | some '\\' => do
          match ← next with
          | none => fail "EOF in backquote substitution".toList
          | some c => do
              if c = '\n' then countLine
              let rest ← backquoted double fuel
              if ['\\', '\x60', '$'].contains c || (double && c == '"') then pure (c :: rest)
              else pure ('\\' :: c :: rest)
      | some c => do
          if c = '\n' then countLine
          pure (c :: (← backquoted double fuel))

/-- Read a command between backquotes, behind the first of them. -/
def backquote (below : Nested) (b : Building) : Reader Building := do
  let text ← backquoted b.level.double stepLimit
  let before := (← get).awaited
  modify fun reading => { reading with awaited := [] }
  let script ← within text (below .backquotes)
  modify fun reading => { reading with awaited := before, repeated := false }
  pure (b.add (.output script))

/-- Read what follows a backslash. -/
def backslash (document : Bool) (b : Building) : Reader Building := do
  match ← next with
  | none => pure (b.add (.escaped '\\'))
  | some c =>
      let kept := b.level.double && !isEscapable document b.level c
      let b := if kept then b.add (.escaped '\\') else b
      pure { b.add (.escaped c) with quoted := true }

/-- Close a quote, in a document only where it was opened in braces. -/
def closeQuote (document : Bool) (b : Building) (c : Char) : Building :=
  if document && b.level.braces = 0 then b.put c
  else
    let level := if b.level.doubleBraces = 0 then
        { b.level with mode := .base, double := false }
      else b.level
    let b := { b with level := level, quoted := true }
    (if c = '"' then b.toggle else b).quote document

/-- Open a quote. -/
def openQuote (document : Bool) (b : Building) (c : Char) : Building :=
  if c = '"' then
    (({ b with level := { b.level with mode := .double, double := true } }).toggle).quote document
  else ({ b with level := { b.level with mode := .single } }).quote document

/-- Put a character that has no special meaning, or has it taken by quotes. -/
def putLiteral (document : Bool) (b : Building) (c : Char) : Building :=
  let quoting := b.level.mode = .single || b.level.mode = .double
  let isMarked := isProtected c || (c == '\\' && b.level.mode = .single)
  if quoting && isMarked && (!document || b.level.double || b.level.braces != 0) then
    b.add (.escaped c)
  else b.put c

/-- Read on in a word from a character.  The result comes with the character that the word
ended at.  -/
def wordFrom (below : Nested) (ending? : Option Awaited) :
    Nat → Building → Option Char → Reader (Building × Option Char)
  | 0, b, c => pure (b, c)
  | _, b, none => pure (b, none)
  | fuel + 1, b, some c => do
      let document := ending?.isSome
      let level := b.level
      let following (b : Building) : Reader (Option Char) :=
        if b.level.mode = .single then next else char
      let goOn (b : Building) : Reader (Building × Option Char) := do
        wordFrom below ending? fuel b (← following b)
      if c = '\n' then
        if level.mode = .base && level.braces = 0 then pure (b, some c)
        else do
          countLine
          let b := b.put c
          let c ← lineStart ending? (← following b)
          wordFrom below ending? fuel b c
      else if c = '\'' && level.mode = .single then goOn (closeQuote document b c)
      else if level.mode = .single then goOn (putLiteral document b c)
      else if c = '\\' then do goOn (← backslash document b)
      else if c = '$' then do goOn (← dollar below b)
      else if c = '\x60' then do
        if (← get).expectation.mark then goOn (b.put c)
        else goOn (← backquote below b)
      else if c = '}' then
        if !level.inner && level.braces != 0 then goOn b.closeBrace else goOn (b.put c)
      else
        match level.mode with
        | .arithmetic =>
            if c = '(' then
              goOn { b.put c with level := { level with parentheses := level.parentheses + 1 } }
            else if c = ')' then
              if level.parentheses != 0 then
                goOn { b.put c with level := { level with parentheses := level.parentheses - 1 } }
              else do
                if ← accept ')' then goOn b.ascend.complete else goOn (b.put c)
            else goOn (b.put c)
        | .base =>
            if c = '"' || c = '\'' then goOn (openQuote document b c)
            else if endsWord c then
              if level.braces = 0 then pure (b, some c) else goOn (b.put c)
            else goOn (b.put c)
        | _ => if c = '"' then goOn (closeQuote document b c) else goOn (putLiteral document b c)

/-- Read a word or a document from its first character.  Everything that was opened in it has
to be closed. -/
def wholeWord (below : Nested) (ending? : Option Awaited) (mode : Mode)
    (c : Option Char) : Reader (Building × Option Char) := do
  let c ← lineStart ending? c
  let (b, after) ← wordFrom below ending? stepLimit (.start mode) c
  if b.level.mode = .arithmetic then fail "Missing '))'".toList
  if b.level.mode != .base && ending?.isNone then fail "Unterminated quoted string".toList
  if b.level.braces != 0 then fail "Missing '\x7d'".toList
  pure (b, after)

/-- The redirection that an angle bracket begins, behind the number of a descriptor, if there
is one. -/
def redirection (c : Char) (digit? : Option Char) : Reader Opened := do
  let number (other : Nat) : Nat :=
    match digit? with
    | some d => d.toNat - '0'.toNat
    | none => other
  if c = '>' then
    if ← accept '>' then pure (.file (number 1) .append)
    else if ← accept '|' then pure (.file (number 1) .overwrite)
    else if ← accept '&' then pure (.copy (number 1))
    else pure (.file (number 1) .write)
  else if ← accept '<' then pure (.here (number 0) (← accept '-'))
  else if ← accept '&' then pure (.copy (number 0))
  else if ← accept '>' then pure (.file (number 0) .both)
  else pure (.file (number 0) .read)

/-- Note the last token. -/
def bring (token : Token) : Reader Token := do
  modify fun reading => { reading with last := token }
  pure token

/-- Read a word of a command from its first character, or the redirection that an angle
bracket behind it begins. -/
def wordToken (below : Nested) (c : Option Char) : Reader Token := do
  let (b, after) ← wholeWord below none .base c
  let digit? : Option (Option Char) := match b.pieces with
    | [] => some none
    | [.plain d] => if d.isDigit then some (some d) else none
    | _ => none
  match after, digit?, b.quoted with
  | some '>', some digit, false => do
      let opened ← redirection '>' digit
      modify fun reading => { reading with opened := opened }
      bring .redirection
  | some '<', some digit, false => do
      let opened ← redirection '<' digit
      modify fun reading => { reading with opened := opened }
      bring .redirection
  | after, _, _ => do
      giveBackChar after
      modify fun reading => { reading with quoted := b.quoted, word := b.pieces.reverse }
      bring .word

/-- Read the text of a document. -/
def document (below : Nested) (awaited : Awaited) : Reader Unit := do
  let mode : Mode := if awaited.verbatim then .single else .double
  let c ← if awaited.verbatim then next else char
  let (b, _) ← wholeWord below (some awaited) mode c
  let word := b.pieces.reverse
  modify fun reading =>
    { reading with
      quoted := b.quoted
      word := word
      last := .word
      documents := (awaited.number, word) :: reading.documents }

end Reader

end Reroute.Shell

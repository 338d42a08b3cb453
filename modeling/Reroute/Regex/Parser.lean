import Reroute.Regex.Class
import Reroute.Regex.Error
import Reroute.Regex.Expression

/-!
The reading of regular expressions.  One pass turns the text into an expression: flags are
applied where they stand, so that cases, line ends and greed are settled when a piece is
read.  Open groups and open classes wait on stacks, and every step uses up a character,
which is what the fuel of the loops counts.
-/
namespace Reroute.Regex

/-- The flags in force at a place of the text. -/
structure Flags where
  ignoreCase : Bool
  multiLine : Bool
  dotAll : Bool
  swapGreed : Bool
  unicode : Bool
  verbose : Bool
  crlf : Bool
deriving Repr, DecidableEq

/-- The flags an expression begins with. -/
def Flags.initial (ignoreCase : Bool) : Flags :=
  ⟨ignoreCase, false, false, false, true, false, false⟩

/-- Set or clear the flag of a letter. -/
def Flags.update (flags : Flags) (value : Bool) : Char → Flags
  | 'i' => { flags with ignoreCase := value }
  | 'm' => { flags with multiLine := value }
  | 's' => { flags with dotAll := value }
  | 'U' => { flags with swapGreed := value }
  | 'u' => { flags with unicode := value }
  | 'x' => { flags with verbose := value }
  | 'R' => { flags with crlf := value }
  | _ => flags

namespace Parser

/-- The deepest nesting of groups, classes, repetitions, sequences and branches. -/
def nestLimit : Nat := 250

/-- The greatest count of a repetition. -/
def maxCount : Nat := 0xFFFFFFFF

/-- Skip blanks and comments up to the next character that counts. -/
def skipLayout : Bool → Text → Text
  | _, [] => []
  | true, c :: rest => skipLayout (c != '\n') rest
  | false, c :: rest =>
      if Text.isBlank c then skipLayout false rest
      else if c = '#' then skipLayout true rest
      else c :: rest

/-- Skip layout where the flags say that it does not count. -/
def skip (flags : Flags) (s : Text) : Text :=
  if flags.verbose then skipLayout false s else s

/-- Collect characters that pass a test, skipping layout behind each. -/
def collect (flags : Flags) (test : Char → Bool) : Nat → Text → Text × Text
  | 0, s => ([], s)
  | _ + 1, [] => ([], [])
  | fuel + 1, c :: rest =>
      if test c then
        let (found, after) := collect flags test fuel (skip flags rest)
        (c :: found, after)
      else ([], c :: rest)

/-- The characters that stand for themselves behind a backslash. -/
def isEscapable (c : Char) : Bool :=
  c.toNat < 0x80 && !c.isAlphanum && c != '<' && c != '>'

/-- A piece of an expression before flags give it a meaning. -/
inductive Primitive where
  | literal (c : Char) (asByte : Bool)
  | dot
  | look (kind : Look)
  | named (set : CharSet)

/-- The character of a code point, if there is one. -/
def charOfCode? (n : Nat) : Option Char :=
  if n ≤ 0x10FFFF ∧ ¬(0xD800 ≤ n ∧ n ≤ 0xDFFF) then some (Char.ofNat n) else none

/-- Read the digits behind `\x`, `\u` or `\U`: a fixed number of them, or any number in
braces. -/
def hexEscape (flags : Flags) (width : Nat) (s : Text) : Except Error (Primitive × Text) :=
  match skip flags s with
  | [] => .error .unfinishedEscape
  | '{' :: rest =>
      let (digits, after) := collect flags (fun c => c != '}') rest.length (skip flags rest)
      match after with
      | [] =>
          if digits.all fun c => (Hex.digitValue? c).isSome then .error .unfinishedEscape
          else .error .invalidHex
      | _ :: rest' =>
          match (Hex.value? digits).bind charOfCode? with
          | some c => .ok (.literal c false, skip flags rest')
          | none => .error .invalidHex
  | s' =>
      let (digits, after) := fixed width s'
      if digits.length < width then
        if after.isEmpty then .error .unfinishedEscape else .error .invalidHex
      else match (Hex.value? digits).bind charOfCode? with
        | some c => .ok (.literal c (width = 2), after)
        | none => .error .invalidHex
where
  /-- Collect up to a number of digits. -/
  fixed : Nat → Text → Text × Text
    | 0, s => ([], s)
    | _ + 1, [] => ([], [])
    | n + 1, c :: rest =>
        if (Hex.digitValue? c).isSome then
          let (digits, after) := fixed n (skip flags rest)
          (c :: digits, after)
        else ([], c :: rest)

/-- Add the other cases to a set and take its complement, as the flags and a negation say.
Without Unicode a complement would reach beyond ASCII. -/
def finishSet (flags : Flags) (negated : Bool) (set : CharSet) : Except Error CharSet :=
  if flags.unicode then
    let closed := if flags.ignoreCase then Casing.close set else set
    .ok (if negated then closed.complement else closed)
  else if negated then .error .invalidUtf8
  else .ok (if flags.ignoreCase then Casing.closeAscii set else set)

/-- The class of a letter such as `\d`; the upper-case letter negates it. -/
def letterClass (flags : Flags) (c : Char) : Except Error CharSet :=
  let set := match c.toLower, flags.unicode with
    | 'd', true => CharSet.digits
    | 'd', false => CharSet.asciiDigits
    | 's', true => CharSet.blanks
    | 's', false => CharSet.asciiBlanks
    | _, true => CharSet.wordChars
    | _, false => CharSet.asciiWordChars
  if c.isLower then .ok set
  else if flags.unicode then .ok set.complement
  else .error .invalidUtf8

/-- Read what follows `\p` or `\P`. -/
def unicodeClass (flags : Flags) (negated : Bool) (s : Text) :
    Except Error (Primitive × Text) := do
  let (name, rest) ← match skip flags s with
    | [] => throw Error.unfinishedEscape
    | '{' :: rest =>
        let (name, after) := collect flags (fun c => c != '}') rest.length (skip flags rest)
        match after with
        | [] => throw Error.unfinishedEscape
        | _ :: rest' => pure (name, rest')
    | '\\' :: _ => throw Error.unknownProperty
    | c :: rest => pure ([c], skip flags rest)
  if !flags.unicode then throw Error.unicodeNotAllowed
  match CharSet.unicodeClass? name with
  | some (opposite, set) => pure (.named (← finishSet flags (negated != opposite) set), rest)
  | none => throw Error.unknownProperty

/-- Read the name in braces that `\b` may carry.  What begins with no letter or dash is left
for a counted repetition. -/
def boundary (flags : Flags) (s : Text) : Except Error (Primitive × Text) :=
  let plain : Primitive := .look (.wordBoundary flags.unicode)
  let isNameChar (c : Char) : Bool := c.isAlpha || c == '-'
  match s with
  | '{' :: rest =>
      match skip flags rest with
      | [] => .error .unknownBoundary
      | c :: rest' =>
          if !isNameChar c then .ok (plain, s)
          else
            let (name, after) := collect flags isNameChar (rest'.length + 1) (c :: rest')
            match after with
            | '}' :: after' =>
                if name = "start".toList then .ok (.look (.wordStart flags.unicode), after')
                else if name = "end".toList then .ok (.look (.wordEnd flags.unicode), after')
                else if name = "start-half".toList then
                  .ok (.look (.wordStartHalf flags.unicode), after')
                else if name = "end-half".toList then
                  .ok (.look (.wordEndHalf flags.unicode), after')
                else .error .unknownBoundary
            | _ => .error .unknownBoundary
  | _ => .ok (plain, s)

/-- Read what follows a backslash. -/
def escape (flags : Flags) : Text → Except Error (Primitive × Text)
  | [] => .error .unfinishedEscape
  | c :: rest =>
      let literal (d : Char) : Except Error (Primitive × Text) :=
        .ok (.literal d false, rest)
      if c.isDigit then .error .backreference
      else if isEscapable c then literal c
      else match c with
        | 'x' => hexEscape flags 2 rest
        | 'u' => hexEscape flags 4 rest
        | 'U' => hexEscape flags 8 rest
        | 'p' => unicodeClass flags false rest
        | 'P' => unicodeClass flags true rest
        | 'a' => literal '\x07'
        | 'f' => literal '\x0C'
        | 't' => literal '\t'
        | 'n' => literal '\n'
        | 'r' => literal '\r'
        | 'v' => literal '\x0B'
        | 'A' => .ok (.look .start, rest)
        | 'z' => .ok (.look .finish, rest)
        | 'b' => boundary flags rest
        | 'B' => .ok (.look (.notWordBoundary flags.unicode), rest)
        | '<' => .ok (.look (.wordStart flags.unicode), rest)
        | '>' => .ok (.look (.wordEnd flags.unicode), rest)
        | c =>
            if ['d', 'D', 's', 'S', 'w', 'W'].contains c then
              (letterClass flags c).map fun set => (.named set, rest)
            else .error .unknownEscape

/-! ### Bracketed classes -/

/-- The operators between the sets of a class. -/
inductive SetOp where
  | inter
  | diff
  | symmDiff

/-- Carry an operator out. -/
def SetOp.apply : SetOp → CharSet → CharSet → CharSet
  | .inter, s, t => s.inter t
  | .diff, s, t => s.diff t
  | .symmDiff, s, t => s.symmDiff t

/-- A set with the depth of the nesting it was written in. -/
structure Part where
  set : CharSet
  depth : Nat

/-- The items of a class read so far, with their number. -/
structure Items where
  set : CharSet
  depth : Nat
  count : Nat

/-- No item. -/
def Items.none : Items := ⟨.empty, 0, 0⟩

/-- Add an item. -/
def Items.add (items : Items) (set : CharSet) (depth : Nat) : Items :=
  ⟨items.set.union set, max items.depth depth, items.count + 1⟩

/-- The set of all items, which nests where there are several. -/
def Items.toPart (items : Items) : Part :=
  ⟨items.set, if items.count ≤ 1 then items.depth else items.depth + 1⟩

/-- What waits while a class is read: the items around a nested class, or the left side of
an operator. -/
inductive Waiting where
  | class (negated : Bool) (around : Items)
  | op (op : SetOp) (left : Part)

/-- Read the beginning of a class, behind its bracket: a negation, dashes, and a closing
bracket that stands first. -/
def openClass (flags : Flags) (s : Text) : Except Error (Bool × Items × Text) := do
  let (negated, rest) ← match skip flags s with
    | [] => throw Error.unclosedClass
    | '^' :: rest => pure (true, skip flags rest)
    | rest => pure (false, rest)
  let (dashes, rest) := collect flags (fun c => c == '-') rest.length rest
  let items := dashes.foldl (fun items _ => items.add (.singleton '-') 0) Items.none
  match rest with
  | [] => throw Error.unclosedClass
  | ']' :: rest' =>
      if dashes.isEmpty then
        match skip flags rest' with
        | [] => throw Error.unclosedClass
        | rest'' => pure (negated, items.add (.singleton ']') 0, rest'')
      else pure (negated, items, rest)
  | _ => pure (negated, items, rest)

/-- Read `[:name:]` behind its first bracket; anything else is no such class. -/
def asciiClass? (s : Text) : Option (Bool × CharSet × Text) :=
  match s with
  | ':' :: rest =>
      let (negated, rest) := match rest with
        | '^' :: rest' => (true, rest')
        | _ => (false, rest)
      let name := rest.takeWhile fun c => c != ':'
      match rest.dropWhile fun c => c != ':' with
      | ':' :: ']' :: after =>
          (CharSet.asciiClass? name).map fun set => (negated, set, after)
      | _ => none
  | _ => none

/-- Read one item of a class. -/
def classItem (flags : Flags) : Text → Except Error (Primitive × Text)
  | [] => .error .unclosedClass
  | '\\' :: rest => escape flags rest
  | c :: rest => .ok (.literal c false, rest)

/-- The character an item stands for.  Without Unicode it has to be ASCII. -/
def itemChar (flags : Flags) : Primitive → Except Error Char
  | .literal c _ =>
      if flags.unicode || c.toNat < 0x80 then .ok c else .error .unicodeNotAllowed
  | _ => .error .invalidClassItem

/-- The set an item stands for. -/
def itemSet (flags : Flags) : Primitive → Except Error CharSet
  | .named set => .ok set
  | item => (itemChar flags item).map .singleton

/-- The character behind the next one, over blanks and the mark of a comment. -/
def peekBehind (flags : Flags) (rest : Text) : Option Char :=
  if !flags.verbose then rest.head?
  else match rest.dropWhile Text.isBlank with
    | '#' :: rest' => (rest'.dropWhile Text.isBlank).head?
    | rest' => rest'.head?

/-- Read an item or a range of characters. -/
def classRange (flags : Flags) (s : Text) : Except Error (CharSet × Text) := do
  let (first, rest) ← classItem flags s
  match skip flags rest with
  | [] => throw Error.unclosedClass
  | '-' :: rest' =>
      let behind := peekBehind flags rest'
      if behind = some ']' || behind = some '-' then
        pure (← itemSet flags first, '-' :: rest')
      else
        match skip flags rest' with
        | [] => throw Error.unclosedClass
        | rest'' =>
            let (last, after) ← classItem flags rest''
            let low ← itemChar flags first
            let high ← itemChar flags last
            if low ≤ high then pure (CharSet.ofRanges [(low.toNat, high.toNat)], after)
            else throw Error.invalidRange
  | rest' => pure (← itemSet flags first, rest')

/-- Carry out an operator that waits for its right side. -/
def closeOp (flags : Flags) (right : Part) : List Waiting → Part × List Waiting
  | .op op left :: stack =>
      let fold (set : CharSet) : CharSet :=
        if !flags.ignoreCase then set
        else if flags.unicode then Casing.close set
        else Casing.closeAscii set
      (⟨op.apply (fold left.set) (fold right.set), max left.depth right.depth + 1⟩, stack)
  | stack => (right, stack)

/-- Read a class up to its last bracket. -/
def classLoop (flags : Flags) :
    Nat → List Waiting → Items → Text → Except Error (Part × Text)
  | 0, _, _, _ => .error .unclosedClass
  | fuel + 1, stack, items, s =>
      match skip flags s with
      | [] => .error .unclosedClass
      | '[' :: rest =>
          match asciiClass? rest with
          | some (negated, set, after) => do
              let set ← finishSet flags negated set
              classLoop flags fuel stack (items.add set 0) after
          | none => do
              let (negated, inner, after) ← openClass flags rest
              classLoop flags fuel (.class negated items :: stack) inner after
      | ']' :: rest =>
          match closeOp flags items.toPart stack with
          | (part, .class negated around :: below) => do
              let set ← finishSet flags negated part.set
              if below.isEmpty then pure (⟨set, part.depth + 1⟩, rest)
              else classLoop flags fuel below (around.add set (part.depth + 1)) rest
          | _ => .error .unclosedClass
      | '&' :: '&' :: rest => operator fuel .inter stack items rest
      | '-' :: '-' :: rest => operator fuel .diff stack items rest
      | '~' :: '~' :: rest => operator fuel .symmDiff stack items rest
      | s' => do
          let (set, rest) ← classRange flags s'
          classLoop flags fuel stack (items.add set 0) rest
where
  /-- Keep what is on the left of an operator. -/
  operator (fuel : Nat) (op : SetOp) (stack : List Waiting) (items : Items) (rest : Text) :
      Except Error (Part × Text) :=
    let (left, below) := closeOp flags items.toPart stack
    classLoop flags fuel (.op op left :: below) .none rest

/-- Read a class behind its first bracket. -/
def bracketed (flags : Flags) (s : Text) : Except Error (Part × Text) := do
  let (negated, items, rest) ← openClass flags s
  classLoop flags (rest.length + 1) [.class negated .none] items rest

/-! ### Groups, branches and repetitions -/

/-- An expression with the depth of its nesting.  Flags stand among the pieces of a
sequence, but cannot be repeated. -/
structure Node where
  expr : Expr
  depth : Nat
  isFlags : Bool := false

/-- How a group was opened. -/
inductive Opening where
  | whole
  | plain
  | capture (index : Nat)

/-- A group that is being read: its finished branches and the pieces of the current one, the
last of them first. -/
structure Level where
  opening : Opening
  outer : Flags
  branches : List Node
  pieces : List Node

/-- The reading of an expression. -/
structure State where
  flags : Flags
  level : Level
  around : List Level
  groups : Nat
  names : List Text

/-- The depth of several nodes under one. -/
def depthAbove (nodes : List Node) : Nat :=
  (nodes.map Node.depth).foldl max 0 + 1

/-- Join the pieces of a branch. -/
def joinPieces (pieces : List Node) : Node :=
  match pieces.reverse with
  | [] => ⟨.empty, 0, false⟩
  | [node] => node
  | nodes => ⟨Expr.sequence (nodes.map Node.expr), depthAbove nodes, false⟩

/-- Join the branches of a group. -/
def Level.join (level : Level) : Node :=
  match (joinPieces level.pieces :: level.branches).reverse with
  | [node] => node
  | nodes => ⟨Expr.branches (nodes.map Node.expr), depthAbove nodes, false⟩

/-- Close a group. -/
def Level.close (level : Level) : Node :=
  let body := level.join
  match level.opening with
  | .capture index => ⟨.group index body.expr, body.depth + 1, false⟩
  | _ => ⟨body.expr, body.depth + 1, false⟩

/-- Add a piece to the current branch. -/
def State.push (state : State) (node : Node) : State :=
  { state with level := { state.level with pieces := node :: state.level.pieces } }

/-- Begin a group whose flags are `flags`. -/
def State.enter (state : State) (opening : Opening) (flags : Flags) : State :=
  { state with
    flags := flags
    level := ⟨opening, state.flags, [], []⟩
    around := state.level :: state.around }

/-- End the current group and go back to the flags around it. -/
def State.leave (state : State) : Except Error State :=
  match state.around with
  | [] => .error .unopenedGroup
  | level :: around =>
      .ok ({ state with flags := state.level.outer, level := level, around := around }.push
        state.level.close)

/-- The letters of a flag group with the value each gives its flag. -/
def flagItems : Nat → List Char → Bool → Text → Except Error (List (Char × Bool) × Text)
  | 0, _, _, _ => .error .unfinishedFlags
  | _ + 1, _, _, [] => .error .unfinishedFlags
  | fuel + 1, seen, value, c :: rest =>
      if c = ':' ∨ c = ')' then
        if seen.head? = some '-' then .error .danglingNegation else .ok ([], c :: rest)
      else if seen.contains c then .error .repeatedFlag
      else if c = '-' then flagItems fuel (c :: seen) false rest
      else if ['i', 'm', 's', 'U', 'u', 'x', 'R'].contains c then
        (flagItems fuel (c :: seen) value rest).map fun (items, after) =>
          ((c, value) :: items, after)
      else .error .unknownFlag

/-- Read the name of a group behind its angle bracket. -/
def groupName (s : Text) : Except Error (Text × Text) :=
  let name := s.takeWhile fun c => c != '>'
  match s.dropWhile fun c => c != '>' with
  | [] => .error .invalidGroupName
  | _ :: rest =>
      if isName name then .ok (name, rest) else .error .invalidGroupName
where
  /-- Letters, digits and a few signs make a name; it begins with a letter or `_`. -/
  isName : Text → Bool
    | [] => false
    | c :: rest =>
        (c == '_' || CharSet.alphabetic.contains c) &&
          rest.all fun d => ['_', '.', '[', ']'].contains d || CharSet.alphabetic.contains d ||
            CharSet.numbers.contains d

/-- Read the beginning of a group, behind its bracket. -/
def openGroup (state : State) (s : Text) : Except Error (State × Text) :=
  let capture (rest : Text) : State × Text :=
    let index := state.groups + 1
    ({ state with groups := index }.enter (.capture index) state.flags, rest)
  let named (rest : Text) : Except Error (State × Text) := do
    let (name, after) ← groupName rest
    if state.names.contains name then throw .duplicateGroupName
    else
      let (opened, _) := capture after
      pure ({ opened with names := name :: state.names }, after)
  match skip state.flags s with
  | '?' :: '=' :: _ => .error .lookAround
  | '?' :: '!' :: _ => .error .lookAround
  | '?' :: '<' :: '=' :: _ => .error .lookAround
  | '?' :: '<' :: '!' :: _ => .error .lookAround
  | '?' :: 'P' :: '<' :: rest => named rest
  | '?' :: '<' :: rest => named rest
  | ['?'] => .error .unclosedGroup
  | '?' :: rest => do
      let (items, after) ← flagItems (rest.length + 1) [] true rest
      let flags := items.foldl (fun flags item => flags.update item.2 item.1) state.flags
      match after with
      | ')' :: rest' =>
          if rest.head? = some ')' then throw .nothingToRepeat
          else pure ({ state with flags := flags }.push ⟨.empty, 0, true⟩, rest')
      | _ => pure (state.enter .plain flags, after.drop 1)
  | rest => .ok (capture rest)

/-- Repeat the last piece. -/
def State.repeatLast (state : State) (least : Nat) (most : Option Nat) (greedy : Bool) :
    Except Error State :=
  match state.level.pieces with
  | [] => .error .nothingToRepeat
  | node :: pieces =>
      if node.isFlags then .error .nothingToRepeat
      else
        let expr := Expr.repeated least most (greedy != state.flags.swapGreed) node.expr
        .ok ({ state with level := { state.level with pieces := pieces } }.push
          ⟨expr, node.depth + 1, false⟩)

/-- Read a repetition by `?`, `*` or `+`, which a further `?` makes reluctant. -/
def uncounted (state : State) (least : Nat) (most : Option Nat) (rest : Text) :
    Except Error (State × Text) := do
  match rest with
  | '?' :: after => pure (← state.repeatLast least most false, after)
  | _ => pure (← state.repeatLast least most true, rest)

/-- Read a count.  Blanks around it do not matter. -/
def count (flags : Flags) (s : Text) : Except Error (Option Nat × Text) :=
  let s := s.dropWhile Text.isBlank
  let (digits, rest) := collect flags Char.isDigit s.length s
  let rest := skip flags (rest.dropWhile Text.isBlank)
  if digits.isEmpty then .ok (none, rest)
  else
    let n := digits.foldl (fun total d => 10 * total + (d.toNat - '0'.toNat)) 0
    if maxCount < n then .error .invalidCount else .ok (some n, rest)

/-- Read a counted repetition behind its brace. -/
def counted (state : State) (s : Text) : Except Error (State × Text) := do
  let flags := state.flags
  if (skip flags s).isEmpty then throw .unclosedCount
  let (least?, rest) ← count flags (skip flags s)
  let some least := least? | throw .missingCount
  let (most, rest) ← match rest with
    | ',' :: rest' =>
        match skip flags rest' with
        | '}' :: rest'' => pure (none, '}' :: rest'')
        | rest'' => do
            let (most?, after) ← count flags rest''
            let some most := most? | throw .missingCount
            pure (some most, after)
    | _ => pure (some least, rest)
  match rest with
  | '}' :: after =>
      if (most.getD least) < least then throw .invalidCount
      else match skip flags after with
        | '?' :: after' => pure (← state.repeatLast least most false, after')
        | after' => pure (← state.repeatLast least most true, after')
  | _ => throw .unclosedCount

/-- The expression of a literal character.  A byte beyond ASCII cannot stand in a text. -/
def literalExpr (flags : Flags) (c : Char) (asByte : Bool) : Except Error Expr :=
  if flags.unicode then
    .ok (.chars (if flags.ignoreCase then Casing.close (.singleton c) else .singleton c))
  else if asByte && 0x80 ≤ c.toNat then .error .invalidUtf8
  else .ok (.chars (if flags.ignoreCase then Casing.closeAscii (.singleton c) else .singleton c))

/-- The expression of a dot: all characters, or all but the line ends. -/
def dotExpr (flags : Flags) : Except Error Expr :=
  if !flags.unicode then .error .invalidUtf8
  else if flags.dotAll then .ok (.chars .all)
  else if flags.crlf then
    .ok (.chars (CharSet.all.diff (CharSet.ofRanges [(0xA, 0xA), (0xD, 0xD)])))
  else .ok (.chars (CharSet.all.diff (.singleton '\n')))

/-- The expression of a primitive. -/
def primitiveExpr (flags : Flags) : Primitive → Except Error Expr
  | .literal c asByte => literalExpr flags c asByte
  | .dot => dotExpr flags
  | .look kind => .ok (.look kind)
  | .named set => .ok (.ofSet set)

/-- The condition of `^`. -/
def caret (flags : Flags) : Look :=
  if !flags.multiLine then .start else if flags.crlf then .anyLineStart else .lineStart

/-- The condition of `$`. -/
def dollar (flags : Flags) : Look :=
  if !flags.multiLine then .finish else if flags.crlf then .anyLineEnd else .lineEnd

/-- Read one piece: the character `c` and what belongs to it. -/
def step (state : State) (c : Char) (rest : Text) : Except Error (State × Text) :=
  let flags := state.flags
  let primitive (p : Primitive) (after : Text) : Except Error (State × Text) := do
    pure (state.push ⟨← primitiveExpr flags p, 0, false⟩, after)
  match c with
  | '(' => openGroup state rest
  | ')' => do pure (← state.leave, rest)
  | '|' =>
      let level := state.level
      let branch := joinPieces level.pieces
      let level := { level with branches := branch :: level.branches, pieces := [] }
      .ok ({ state with level := level }, rest)
  | '[' => do
      let (part, after) ← bracketed flags rest
      pure (state.push ⟨.ofSet part.set, part.depth, false⟩, after)
  | '?' => uncounted state 0 (some 1) rest
  | '*' => uncounted state 0 none rest
  | '+' => uncounted state 1 none rest
  | '{' => counted state rest
  | '\\' => do
      let (p, after) ← escape flags rest
      primitive p after
  | '.' => primitive .dot rest
  | '^' => primitive (.look (caret flags)) rest
  | '$' => primitive (.look (dollar flags)) rest
  | c => primitive (.literal c false) rest

/-- Read pieces up to the end of the text. -/
def loop : Nat → State → Text → Except Error State
  | 0, state, _ => .ok state
  | fuel + 1, state, s =>
      match skip state.flags s with
      | [] => .ok state
      | c :: rest => do
          let (state', after) ← step state c rest
          loop fuel state' after

end Parser

/-- Read a regular expression. -/
def Expr.parse (ignoreCase : Bool) (s : Text) : Except Error Expr := do
  let flags := Flags.initial ignoreCase
  let state ← Parser.loop (s.length + 1) ⟨flags, ⟨.whole, flags, [], []⟩, [], 0, []⟩ s
  if !state.around.isEmpty then throw .unclosedGroup
  let node := state.level.join
  if Parser.nestLimit < node.depth then throw .nestedTooDeeply
  pure node.expr

end Reroute.Regex

import Reroute.Shell.Word

/-!
The grammar of shell scripts.  A script is read one line at a time, so that the commands of a
line may run before a mistake on the next one is found.  Reserved words and aliases count only
where a command may begin.
-/
namespace Reroute.Shell

/-- The words that a command may begin or go on with. -/
def reservedWords : List String :=
  ["!", "case", "do", "done", "elif", "else", "esac", "fi", "for", "if", "in", "then", "until",
    "while", "\x7b", "\x7d"]

/-- The reserved word that begins a group of commands, and the one that ends it. -/
def groupStart : Token := .symbol "\x7b"

/-- The reserved word that ends a group of commands. -/
def groupEnd : Token := .symbol "\x7d"

/-- The tokens that no command begins with and that end a list of commands. -/
def listEnds : List Token :=
  [.finish, .symbol ")", .symbol ";;", .symbol "do", .symbol "done", .symbol "elif",
    .symbol "else", .symbol "esac", .symbol "fi", .symbol "then", groupEnd]

/-- How far a list of commands goes: to the end of the line, to a word that ends it, or to
one where there may be no command at all. -/
inductive Extent where
  | line
  | commands
  | optional
deriving Repr, DecidableEq

/-- The utilities of the shell itself that a function may not stand in for. -/
def specialUtilities : List String :=
  [".", ":", "break", "continue", "eval", "exec", "exit", "export", "local", "readonly", "return",
    "set", "shift", "times", "trap", "unset"]

namespace Reader

/-- Set what is to be looked for in front of the next token. -/
def expect (expectation : Expectation) : Reader Unit :=
  modify fun reading => { reading with expectation := expectation }

/-- What is looked for where a command may begin behind line ends. -/
def commandStart : Expectation := { lines := true, reserved := true, aliases := true }

/-- Read a token again. -/
def repeatToken : Reader Unit :=
  modify fun reading => { reading with repeated := true }

/-- Skip a comment. -/
def comment : Nat → Reader Unit
  | 0 => pure ()
  | fuel + 1 => do
      match ← next with
      | some '\n' => giveBack ['\n']
      | some _ => comment fuel
      | none => pure ()

/-- Read a token without regard to what it may be in its place. -/
def plainToken (below : Nested) : Nat → Reader Token
  | 0 => bring .finish
  | fuel + 1 => do
      match ← char with
      | none => bring .finish
      | some '\n' => do
          countLine
          bring .newline
      | some ' ' => plainToken below fuel
      | some '\t' => plainToken below fuel
      | some '#' => do
          comment stepLimit
          plainToken below fuel
      | some '&' => do bring (.symbol (if ← accept '&' then "&&" else "&"))
      | some '|' => do bring (.symbol (if ← accept '|' then "||" else "|"))
      | some ';' => do bring (.symbol (if ← accept ';' then ";;" else ";"))
      | some '(' => bring (.symbol "(")
      | some ')' => bring (.symbol ")")
      | some c => wordToken below (some c)

/-- Read a token, or the last one once more. -/
def tokenOrLast (below : Nested) : Reader Token := do
  let reading ← get
  if reading.repeated then
    set { reading with repeated := false }
    pure reading.last
  else plainToken below stepLimit

/-- Read the documents that are awaited. -/
def readDocuments (below : Nested) : Reader Unit := do
  let awaited := (← get).awaited
  modify fun reading => { reading with awaited := [] }
  for one in awaited do document below one

/-- Skip line ends, behind which the documents stand that are awaited. -/
def skipLines (below : Nested) : Nat → Token → Reader Token
  | 0, token => pure token
  | fuel + 1, token => do
      if token = .newline then
        readDocuments below
        expect {}
        skipLines below fuel (← tokenOrLast below)
      else pure token

/-- Read a token as what it is in its place: a reserved word, an alias, or what it is by
itself. -/
def tokenIn (below : Nested) : Nat → Expectation → Reader Token
  | 0, _ => bring .finish
  | fuel + 1, wanted => do
      let token ← tokenOrLast below
      let token ← if wanted.lines then skipLines below stepLimit token else pure token
      let reading ← get
      let wanted := { wanted with
        reserved := wanted.reserved || reading.expectation.reserved
        aliases := wanted.aliases || reading.expectation.aliases }
      expect {}
      if token != .word || reading.quoted then pure token
      else
        match reading.word.bare? with
        | none => pure token
        | some name =>
            if wanted.reserved && reservedWords.contains (String.ofList name) then
              bring (.symbol (String.ofList name))
            else if !wanted.aliases then pure token
            else
              match ← alias? name with
              | none => pure token
              | some value => do
                  if !value.isEmpty then insertAlias name value
                  tokenIn below fuel wanted

/-- Read the next token, as the expectation tells. -/
def token (below : Nested) : Reader Token := do
  tokenIn below stepLimit (← get).expectation

/-- The last token is not what may stand in its place. -/
def unexpected {α : Type} : Reader α := do
  fail ((← get).last.description ++ " unexpected".toList)

/-- The last token is not the one that has to stand in its place. -/
def unexpectedFor {α : Type} (token : Token) : Reader α := do
  fail ((← get).last.description ++ " unexpected (expecting ".toList ++ token.description ++ [')'])

/-- Read the word behind the operator of a redirection. -/
def target (below : Nested) : Reader Redirection := do
  let opened := (← get).opened
  match opened with
  | .here .. => expect { mark := true }
  | _ => pure ()
  if (← token below) != .word then unexpected
  let reading ← get
  match opened with
  | .file descriptor opening => pure (.file descriptor opening reading.word)
  | .copy descriptor => pure (.copy descriptor reading.word)
  | .here descriptor dropTabs => do
      let number := reading.nextDocument
      set { reading with
        nextDocument := number + 1
        awaited := reading.awaited ++
          [Awaited.mk number reading.word.literal dropTabs reading.quoted] }
      pure (.here descriptor number)

/-- Read the redirections behind a command. -/
def redirections (below : Nested) : Nat → Reader (List Redirection)
  | 0 => pure []
  | fuel + 1 => do
      if (← token below) = .redirection then do
        let first ← target below
        pure (first :: (← redirections below fuel))
      else do
        repeatToken
        pure []

/-- The words of a simple command that were read, each list in reverse. -/
structure Simple where
  assignments : List (Text × Word) := []
  words : List Word := []
  redirections : List Redirection := []

/-- The assignments as words. -/
def Simple.assigned (simple : Simple) : List Word :=
  simple.assignments.reverse.map fun (name, value) =>
    name.map Piece.plain ++ .plain '=' :: value

/-- Read the patterns of a clause, up to the token behind them.  The first was read already. -/
def patterns (below : Nested) : Nat → Reader (List Word)
  | 0 => pure []
  | fuel + 1 => do
      let first := (← get).word
      if (← token below) = .symbol "|" then do
        let _ ← token below
        pure (first :: (← patterns below fuel))
      else pure [first]

/-- Read the words that a loop goes through. -/
def loopWords (below : Nested) : Nat → Reader (List Word)
  | 0 => pure []
  | fuel + 1 => do
      if (← token below) = .word then do
        let first := (← get).word
        pure (first :: (← loopWords below fuel))
      else pure []

/-- The word that all parameters of a script stand in. -/
def allParameters : Word := [.mark, .parameter ['@'] .value [], .mark]

/-- Put a command behind another. -/
def andThen (first second : Command) : Command :=
  if first.isNothing then second else .sequence first second

/-- Let a command run in the background. -/
def inBackground (line : Nat) : Command → Command
  | .pipeline _ parts => .pipeline false parts
  | .redirected line body redirections => .background line body redirections
  | command => .background line command []

/-- Read a pipeline, which may be negated. -/
def pipeline (below : Nested) : Reader Command := do
  let negated := (← token below) = .symbol "!"
  if negated then expect { reserved := true, aliases := true } else repeatToken
  let first ← below .command
  let rest ← rest stepLimit
  let whole := if rest.isEmpty then first else .pipeline true (first :: rest)
  pure (if negated then .negated whole else whole)
where
  /-- Read the commands of a pipeline behind the first. -/
  rest : Nat → Reader (List Command)
    | 0 => pure []
    | length + 1 => do
        if (← token below) = .symbol "|" then do
          expect commandStart
          let first ← below .command
          pure (first :: (← rest length))
        else do
          repeatToken
          pure []

/-- Read pipelines of which one depends on the other, behind those that were read. -/
def chainFrom (below : Nested) : Nat → Command → Reader Command
  | 0, first => pure first
  | length + 1, first => do
      match ← token below with
      | .symbol "&&" => do
          expect commandStart
          chainFrom below length (.both first (← pipeline below))
      | .symbol "||" => do
          expect commandStart
          chainFrom below length (.either first (← pipeline below))
      | _ => do
          repeatToken
          pure first

/-- Read a list of commands behind those that were read. -/
def listFrom (below : Nested) (extent : Extent) : Nat → Command → Reader Command
  | 0, before => pure before
  | length + 1, before => do
      expect { lines := extent != .line, reserved := true, aliases := true }
      match ← token below with
      | .newline => do
          readDocuments below
          pure before
      | .finish => do
          readDocuments below
          repeatToken
          modify fun reading => { reading with last := .finish }
          pure before
      | found => do
          repeatToken
          let mayEnd := extent = .optional || (extent = .commands && !before.isNothing)
          if mayEnd && listEnds.contains found then pure before
          else
            let line := (← get).line
            let command ← chainFrom below stepLimit (← pipeline below)
            match ← token below with
            | .symbol "&" =>
                listFrom below extent length (andThen before (inBackground line command))
            | .symbol ";" => listFrom below extent length (andThen before command)
            | found => do
                if found = .newline || found = .finish then
                  repeatToken
                  listFrom below extent length (andThen before command)
                else
                  if extent = .line then unexpected
                  repeatToken
                  pure (andThen before command)

/-- Read a list of commands. -/
def list (below : Nested) (extent : Extent) : Reader Command :=
  listFrom below extent stepLimit .nothing

/-- Read a token that has to be a given one. -/
def require (below : Nested) (wanted : Token) : Reader Unit := do
  if (← token below) != wanted then unexpectedFor wanted

/-- Read the commands of a substitution up to its parenthesis.  A document whose text does not
stand in front of that is empty. -/
def inParentheses (below : Nested) : Reader Command := do
  let body ← list below .optional
  require below (.symbol ")")
  within [] (readDocuments below)
  pure body

/-- Read a text of commands that stands between backquotes. -/
def inBackquotes (below : Nested) : Reader Command := do
  let body ← list below .optional
  readDocuments below
  pure body

/-- Read the redirections behind a compound command. -/
def compound (below : Nested) (line : Nat) (body : Command) : Reader Command := do
  expect { reserved := true, aliases := true }
  match ← redirections below stepLimit with
  | [] => pure body
  | behind => pure (.redirected line body behind)

/-- Read a condition with what depends on it, behind the word in front of the condition. -/
def branches (below : Nested) : Nat → Reader Command
  | 0 => pure .nothing
  | length + 1 => do
      let test ← list below .commands
      require below (.symbol "then")
      let yes ← list below .commands
      match ← token below with
      | .symbol "elif" => do pure (.conditional test yes (← branches below length))
      | .symbol "else" => do pure (.conditional test yes (← list below .commands))
      | _ => do
          repeatToken
          pure (.conditional test yes .nothing)

/-- Read the test and the body of a loop, behind the word in front of the test. -/
def loop (below : Nested) (whileTrue : Bool) : Reader Command := do
  let test ← list below .commands
  require below (.symbol "do")
  let body ← list below .commands
  require below (.symbol "done")
  pure (.loop whileTrue test body)

/-- Read a loop through words, behind its first word. -/
def forEach (below : Nested) (line : Nat) : Reader Command := do
  let found ← token below
  let reading ← get
  let name := (reading.word.bare?).getD []
  if found != .word || reading.quoted || !isName name then
    fail "Bad for loop variable".toList
  expect commandStart
  let words ← if (← token below) = .symbol "in" then do
      let words ← loopWords below stepLimit
      let last := (← get).last
      if last != .newline && last != .symbol ";" then unexpected
      pure words
    else do
      if (← get).last != .symbol ";" then repeatToken
      pure [allParameters]
  expect commandStart
  require below (.symbol "do")
  let body ← list below .commands
  require below (.symbol "done")
  pure (.forEach line name words body)

/-- Read the clauses of a choice. -/
def clauses (below : Nested) : Nat → Reader (List (List Word × Command))
  | 0 => pure []
  | length + 1 => do
      expect { lines := true, reserved := true }
      let first ← token below
      if first = .symbol "esac" then pure []
      else
        if first = .symbol "(" then do
          let _ ← token below
        let words ← patterns below stepLimit
        if (← get).last != .symbol ")" then unexpectedFor (.symbol ")")
        let body ← list below .optional
        expect { lines := true, reserved := true }
        match ← token below with
        | .symbol "esac" => pure [(words, body)]
        | .symbol ";;" => do pure ((words, body) :: (← clauses below length))
        | _ => unexpectedFor (.symbol ";;")

/-- Read a choice, behind its first word. -/
def choice (below : Nested) (line : Nat) : Reader Command := do
  if (← token below) != .word then unexpectedFor .word
  let word := (← get).word
  expect commandStart
  require below (.symbol "in")
  pure (.choice line word (← clauses below stepLimit))

/-- Read the definition of a function behind its name and a parenthesis. -/
def definition (below : Nested) (word : Word) : Reader Command := do
  require below (.symbol ")")
  let name := (word.bare?).getD []
  if !isName name || specialUtilities.contains (String.ofList name) then
    fail "Bad function name".toList
  expect commandStart
  let line := (← get).line
  pure (.definition line name (← below .command))

/-- Read a simple command or the definition of a function. -/
def simple (below : Nested) (line : Nat) : Nat → Simple → Reader Command
  | 0, _ => pure .nothing
  | length + 1, found => do
      let finished : Reader Command := do
        repeatToken
        pure (.simple line found.assigned found.words.reverse found.redirections.reverse)
      expect { aliases := found.words.isEmpty }
      match ← token below with
      | .word => do
          let word := (← get).word
          match if found.words.isEmpty then word.assignment? else none with
          | some assignment =>
              simple below line length
                { found with assignments := assignment :: found.assignments }
          | none => simple below line length { found with words := word :: found.words }
      | .redirection => do
          let one ← target below
          simple below line length { found with redirections := one :: found.redirections }
      | .symbol "(" =>
          match found.words, found.assignments, found.redirections with
          | [word], [], [] => definition below word
          | _, _, _ => finished
      | _ => finished

/-- Read a command. -/
def command (below : Nested) : Reader Command := do
  let line := (← get).line
  match ← token below with
  | .symbol "if" => do
      let whole ← branches below stepLimit
      require below (.symbol "fi")
      compound below line whole
  | .symbol "while" => do compound below line (← loop below true)
  | .symbol "until" => do compound below line (← loop below false)
  | .symbol "for" => do compound below line (← forEach below line)
  | .symbol "case" => do compound below line (← choice below line)
  | .symbol "(" => do
      let body ← list below .commands
      require below (.symbol ")")
      expect { reserved := true, aliases := true }
      pure (.subshell line body (← redirections below stepLimit))
  | .word => do
      repeatToken
      simple below line stepLimit {}
  | .redirection => do
      repeatToken
      simple below line stepLimit {}
  | found =>
      if found = groupStart then do
        let body ← list below .commands
        require below groupEnd
        compound below line body
      else unexpected

/-- Read what stands in other commands, down to a depth. -/
def nested : Nat → Nested
  | 0, _ => fail "nested too deeply".toList
  | depth + 1, .command => command (nested depth)
  | depth + 1, .parentheses => inParentheses (nested depth)
  | depth + 1, .backquotes => inBackquotes (nested depth)

/-- How deep commands and words may stand in each other. -/
def nestingLimit : Nat := 100000

/-- The word that a prompt is: all of it stands between quotes. -/
def promptWord (text : Text) : Word :=
  let read : Reader Word := do
    let (b, _) ← wholeWord (nested nestingLimit) (some ⟨0, [], false, false⟩) .double (← char)
    pure b.pieces.reverse
  match read.run (begin text [] 0) with
  | .ok (word, _) => word
  | .error _ => text.map Piece.plain

/-- Read the commands of a line.  There are none left if the text ends first. -/
def line? : Reader (Option Command) := do
  modify fun reading => { reading with repeated := false, awaited := [], expectation := {} }
  let command ← list (nested nestingLimit) .line
  let reading ← get
  pure (if command.isNothing && reading.repeated && reading.last = .finish then none
    else some command)

end Reader

end Reroute.Shell

import Reroute.Shell.Arithmetic
import Reroute.Shell.Machine

/-!
The expansion of words: parameters, the output of commands, arithmetic and home directories,
then the splitting into fields and the search for file names.  What runs commands is given.
-/
namespace Reroute.Shell

/-- How a word is expanded: between quotes, for fields, as an operand, or as an assignment,
where home directories stand behind the equals sign and behind colons. -/
structure Manner where
  quoted : Bool := false
  full : Bool := false
  operand : Bool := false
  home : Bool := false
  assigns : Bool := false
  assigned : Bool := false

/-- What an expansion has left so far: the glyphs in reverse with their number, and the
regions in reverse. -/
structure Expanded where
  glyphs : List Glyph := []
  count : Nat := 0
  regions : List Region := []

/-- An expansion. -/
abbrev Expander := StateT Expanded Run

namespace Expansion

open Machine

/-- Leave a glyph. -/
def put (glyph : Glyph) : Expander Unit :=
  modify fun e => { e with glyphs := glyph :: e.glyphs, count := e.count + 1 }

/-- Leave the characters of a value.  Between quotes those are protected that mean something
in patterns. -/
def putValue (quoted : Bool) (value : Text) : Expander Unit := do
  for c in value do
    put (.character c (quoted && ("!*?[=~:/-]\\".toList.contains c)))

/-- Note a region from a position to the end of what was left. -/
def noteRegion (start : Nat) (apart : Bool) : Expander Unit :=
  modify fun e => { e with regions := ⟨start, e.count, apart⟩ :: e.regions }

/-- Take back everything behind a position, with its regions. -/
def takeBack (position : Nat) : Expander (List Glyph) := do
  let e ← get
  let taken := (e.glyphs.take (e.count - position)).reverse
  set { e with
    glyphs := e.glyphs.drop (e.count - position)
    count := position
    regions := (Fields.dropRegions position e.regions.reverse).reverse }
  pure taken

/-- The home directory of an account. -/
def homeOf? (account : Text) : Option Text :=
  (Disk.accounts.toList.splitOn '\n').findSome? fun line =>
    match line.splitOn ':' with
    | [name, _, _, _, _, home, _] => if name == account then some home else none
    | _ => none

/-- The name of an account behind a tilde and what follows it, if nothing in it is quoted. -/
def accountAt? (assigns : Bool) (pieces : List Piece) : Option (Text × List Piece) :=
  go [] pieces
where
  /-- Go on with the name, whose characters come in reverse. -/
  go (name : Text) : List Piece → Option (Text × List Piece)
    | .plain c :: rest =>
        if c = '/' || (assigns && c = ':') then some (name.reverse, .plain c :: rest)
        else go (c :: name) rest
    | [] => some (name.reverse, [])
    | _ => none

/-- Put a home directory in place of a tilde and the name of an account behind it. -/
def home (assigns : Bool) (pieces : List Piece) : Expander (List Piece) := do
  match pieces with
  | .plain '~' :: rest =>
      match accountAt? assigns rest with
      | none => pure pieces
      | some (account, rest) =>
          let shell ← (getShell : Run Session)
          let found? := if account.isEmpty then shell.value? "HOME".toList else homeOf? account
          match found? with
          | some path => do
              putValue true path
              pure rest
          | none => pure pieces
  | _ => pure pieces

/-- The values of all parameters, one behind the other with a separator. -/
def joined (parameters : List Text) (separator : Option Char) : Text :=
  Text.joinWith separator.toList parameters

/-- The letters of the options that are set. -/
def optionLetters (shell : Session) : Text :=
  "pubaCEVvxsnmiIfe".toList.filter shell.has

/-- The value of a parameter, if it is set. -/
def parameter? (manner : Manner) (name : Text) : Run (Option Text) := do
  let shell ← getShell
  let together : Option Text :=
    let separator : Option Char :=
      if manner.full && !manner.quoted then some Fields.boundary
      else
        match shell.value? "IFS".toList with
        | some [] => none
        | some (c :: _) => some c
        | none => some ' '
    let separator := if manner.full && !manner.quoted && (shell.value? "IFS".toList).isNone then
        some ' '
      else separator
    some (joined shell.parameters separator)
  pure <| match name with
    | ['$'] => some (Numeral.render shell.main)
    | ['?'] => some (Numeral.render shell.status)
    | ['#'] => some (Numeral.render shell.parameters.length)
    | ['!'] => shell.lastJob.map Numeral.render
    | ['-'] => some (optionLetters shell)
    | ['@'] =>
        if manner.quoted && manner.full then some (joined shell.parameters (some Fields.boundary))
        else together
    | ['*'] => together
    | _ =>
        if name.all Char.isDigit then
          let n := Numeral.value name
          if n = 0 then some shell.name else shell.parameters[n - 1]?
        else shell.value? name

/-- Complain about a parameter that has no value. -/
def notSet {α : Type} (name : Text) (complaint : Text) : Run α :=
  abort (name ++ ": ".toList ++ complaint)

/-- Note the region of a value.  Between quotes only parameters stay apart. -/
def noteValue (manner : Manner) (name : Text) (start : Nat) : Expander Unit := do
  if !manner.quoted then noteRegion start false
  else
    let shell ← (getShell : Run Session)
    if name = ['@'] && !shell.parameters.isEmpty then noteRegion start true

/-- Whether a value is missing, where an empty one may count as missing. -/
def isMissing (value? : Option Text) (orEmpty : Bool) : Bool :=
  match value? with
  | none => true
  | some value => orEmpty && value.isEmpty

/-- The value of a parameter that has to be set, where the option says so. -/
def required (manner : Manner) (name : Text) : Run (Option Text) := do
  let value? ← parameter? manner name
  if value?.isNone && (← getShell).has 'u' then notSet name "parameter not set".toList
  pure value?

/-- Cut what fits a pattern off a value. -/
def cut (use : Use) (pattern : Text) (value : Text) : Nat × Nat :=
  let items := Pattern.parse pattern
  match use with
  | .cutStart longest =>
      let fitting := Pattern.fittingStarts items value
      (((if longest then fitting.getLast? else fitting.head?).getD 0), value.length)
  | .cutEnd longest =>
      let fitting := Pattern.fittingEnds items value
      (0, ((if longest then fitting.head? else fitting.getLast?).getD value.length))
  | _ => (0, value.length)

/-- Work out an arithmetic expression. -/
def calculate (text : Text) : Run Text := do
  let shell ← getShell
  let known : Arithmetic.Variables :=
    ⟨shell.value?, fun name => ((shell.named.lookup name).map (·.isConstant)).getD false⟩
  let (result, assigned) := Arithmetic.evaluate known text
  for (name, value) in assigned do assign name value
  match result with
  | .ok value => pure (Integer.render value.toInt)
  | .error .overflow => throw (.killed 8)
  | .error error => abort (Arithmetic.message text error)

/-- The output of a command less the line feeds at its end. -/
def trimmedOutput (text : Text) : Text :=
  ((text.filter fun c => c != '\x00').reverse.dropWhile fun c => c == '\n').reverse

/-- Note the region of unprotected characters of an operand behind a position. -/
def noteRun (manner : Manner) (start : Nat) (inQuotes : Bool) : Expander Unit := do
  if manner.operand && !manner.quoted && !inQuotes && start < (← get).count then
    noteRegion start false

mutual

/-- Expand the pieces of a word.  The fuel bounds the nesting and the number of pieces. -/
def pieces (run : Command → Run Text) : Nat → Manner → Bool → Nat → List Piece → Expander Unit
  | 0, _, _, _, _ => pure ()
  | _, manner, inQuotes, start, [] => noteRun manner start inQuotes
  | fuel + 1, manner, inQuotes, start, piece :: rest => do
      let inner := { manner with quoted := manner.quoted || inQuotes }
      let onward (manner : Manner) (rest : List Piece) : Expander Unit := do
        pieces run fuel manner inQuotes (← get).count rest
      match piece with
      | .plain c => do
          put (.character c false)
          if manner.assigns && (c == ':' || (c == '=' && !manner.assigned)) then
            let manner := if c == '=' then { manner with assigned := true } else manner
            match rest with
            | .plain '~' :: _ => do
                let rest ← if inQuotes then pure rest else home true rest
                onward manner rest
            | _ => pieces run fuel manner inQuotes start rest
          else pieces run fuel manner inQuotes start rest
      | .escaped c => do
          noteRun manner start inQuotes
          put (.character c true)
          onward manner rest
      | .mark => do
          noteRun manner start inQuotes
          match inQuotes, rest with
          | false, .parameter ['@'] .value [] :: .mark :: rest => do
              parameter run fuel { inner with quoted := true } ['@'] .value []
              onward manner rest
          | _, _ => do
              put .mark
              pieces run fuel manner (!inQuotes) (← get).count rest
      | .parameter name .lastValue operand => do
          noteRun manner start inQuotes
          parameter run fuel inner name .value []
          onward manner operand
      | .parameter name use operand => do
          noteRun manner start inQuotes
          parameter run fuel inner name use operand
          onward manner rest
      | .output script => do
          noteRun manner start inQuotes
          let before := (← get).count
          if !script.isNothing then putValue inner.quoted (trimmedOutput (← run script))
          if !inner.quoted then noteRegion before false
          onward manner rest
      | .arithmetic expression => do
          noteRun manner start inQuotes
          let before := (← get).count
          word run fuel {} expression
          let text := Glyph.text (← takeBack before)
          putValue inner.quoted (← calculate text)
          if !inner.quoted then noteRegion before false
          onward manner rest

/-- Expand a word from its start, where a home directory may stand. -/
def word (run : Command → Run Text) : Nat → Manner → List Piece → Expander Unit
  | 0, _, _ => pure ()
  | fuel + 1, manner, whole => do
      let rest ← if manner.home then home manner.assigns whole else pure whole
      pieces run fuel { manner with home := false } false (← get).count rest

/-- Expand a parameter. -/
def parameter (run : Command → Run Text) :
    Nat → Manner → Text → Use → List Piece → Expander Unit
  | 0, _, _, _, _ => pure ()
  | fuel + 1, manner, name, use, operand => do
      let start := (← get).count
      let value (value? : Option Text) : Expander Unit := do
        match value? with
        | some text => do
            putValue manner.quoted text
            noteValue manner name start
        | none => pure ()
      let operandManner := { manner with home := true, operand := true }
      match use with
      | .value | .lastValue => do value (← required manner name)
      | .length => do
          let found ← required manner name
          putValue manner.quoted (Numeral.render ((found.getD []).length))
          noteValue manner name start
      | .fallback orEmpty => do
          let found ← (parameter? manner name : Run (Option Text))
          if isMissing found orEmpty then word run fuel operandManner operand else value found
      | .replacement orEmpty => do
          let found ← (parameter? manner name : Run (Option Text))
          if isMissing found orEmpty then noteValue manner name start
          else word run fuel operandManner operand
      | .complaint orEmpty => do
          let found ← (parameter? manner name : Run (Option Text))
          if !isMissing found orEmpty then value found
          else
            word run fuel { manner with full := false, quoted := false, home := true } operand
            let text := Glyph.text (← takeBack start)
            if operand.isEmpty then
              notSet name ("parameter not set".toList ++
                if orEmpty then " or null".toList else [])
            else notSet name text
      | .assignment orEmpty => do
          let found ← (parameter? manner name : Run (Option Text))
          if !isMissing found orEmpty then value found
          else
            word run fuel { home := true } operand
            let text := Glyph.text (← takeBack start)
            (assign name text : Run Unit)
            value (← (parameter? manner name : Run (Option Text)))
      | .cutStart _ | .cutEnd _ => do
          match ← required manner name with
          | none => pure ()
          | some text => do
              word run fuel { home := true } operand
              let pattern := Glyph.pattern (← takeBack start)
              let (first, last) := cut use pattern text
              value (some ((text.take last).drop first))
      | .unknown => (abort "Bad substitution".toList : Run Unit)

end

/-- How deep expansions may stand in each other, and how long they may be. -/
def limit : Nat := 100000000

/-- Expand a word by itself. -/
def expand (run : Command → Run Text) (manner : Manner) (whole : Word) : Run Expanded := do
  let ((), expanded) ← (word run limit manner whole).run {}
  pure expanded

/-- The text that a word comes to without being split. -/
def text (run : Command → Run Text) (manner : Manner) (whole : Word) : Run Text := do
  pure (Glyph.text (← expand run manner whole).glyphs.reverse)

/-- The pattern that a word comes to. -/
def pattern (run : Command → Run Text) (whole : Word) : Run (List PatternItem) := do
  pure (Pattern.parse (Glyph.pattern (← expand run { home := true } whole).glyphs.reverse))

/-! ### File names -/

/-- Drop the backslashes of a pattern that protect what follows them. -/
def unprotected : Text → Text
  | '\\' :: c :: rest => c :: unprotected rest
  | c :: rest => c :: unprotected rest
  | [] => []

/-- Whether a set of a pattern is closed in front of the next slash. -/
def closesSet : Text → Bool
  | '!' :: c :: rest => go (c :: rest)
  | s => go s
where
  /-- Look for the bracket behind a first member. -/
  go : Text → Bool
    | '\\' :: c :: rest => if c = '/' then false else behind rest
    | [] => false
    | c :: rest => if c = '/' then false else behind rest
  /-- Look for the bracket. -/
  behind : Text → Bool
    | [] => false
    | ']' :: _ => true
    | '\\' :: c :: rest => if c = '/' then false else behind rest
    | c :: rest => if c = '/' then false else behind rest

/-- Whether a name of a path is a pattern. -/
def isPattern : Text → Bool
  | [] => false
  | '*' :: _ => true
  | '?' :: _ => true
  | '[' :: rest => closesSet rest || isPattern rest
  | '\\' :: _ :: rest => isPattern rest
  | _ :: rest => isPattern rest

/-- Cut a pattern of paths at its slashes, which stay with the names in front of them. -/
def names : Text → List Text
  | [] => [[]]
  | c :: rest =>
      match names rest with
      | first :: others => if c = '/' then [c] :: first :: others else (c :: first) :: others
      | [] => [[c]]

/-- The names in a directory, with those that lead to itself and upwards. -/
def namesIn (system : System) (path : Text) : List Text :=
  match system.nodeAt? (if path.isEmpty then ['.'] else path) with
  | some (.directory _ entries _) => ['.'] :: ['.', '.'] :: entries.map Prod.fst
  | _ => []

/-- The paths that fit the names of a pattern behind a path. -/
def search (system : System) (path : Text) : List Text → List Text
  | [] => if (system.nodeAt? path false).isSome then [path] else []
  | part :: rest =>
      let slash := part.getLast? == some '/'
      let own := if slash then part.dropLast else part
      if isPattern own then
        let items := Pattern.parse own
        let hidden := (unprotected (own.take 2)).head? == some '.'
        let found := (namesIn system path).filter fun name =>
          (hidden || name.head? != some '.') && Pattern.fits items name
        found.flatMap fun name => search system (path ++ name ++ if slash then ['/'] else []) rest
      else search system (path ++ unprotected part) rest

/-- The file names that a field stands for: the field itself if there are none. -/
def fileNames (shell : Session) (system : System) (field : List Glyph) : List Text :=
  let text := Glyph.text field
  if shell.has 'f' || !text.any ("*?[".toList.contains ·) then [text]
  else
    let parts := names (Glyph.pattern field)
    if !parts.any isPattern then [text]
    else
      match (search system [] parts).mergeSort Text.precedes with
      | [] => [text]
      | found => found

/-- The fields that a word comes to. -/
def fields (run : Command → Run Text) (whole : Word) : Run (List Text) := do
  let expanded ← expand run { full := true, home := true } whole
  let shell ← getShell
  let system ← getSystem
  let found := Fields.split shell.separators expanded.glyphs.reverse expanded.regions.reverse
  pure (found.flatMap (fileNames shell system))

/-- The fields that words come to, in their order. -/
def allFields (run : Command → Run Text) : List Word → Run (List Text)
  | [] => pure []
  | first :: rest => do
      let found ← fields run first
      pure (found ++ (← allFields run rest))

end Expansion

end Reroute.Shell

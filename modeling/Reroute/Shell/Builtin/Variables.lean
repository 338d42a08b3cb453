import Reroute.Shell.Builtin.Basic

/-!
The builtins for variables and parameters: giving marks to variables, forgetting them, the
options of the shell, and the reading of options and of lines.
-/
namespace Reroute.Shell.Builtin

open Machine

/-- The variables that have a mark, in the order of their names, as a builtin lists them. -/
def listVariables (start : Text) (isListed : Variable → Bool) : Run Unit := do
  let shell ← getShell
  let listed := shell.named.filter fun entry => isListed entry.2
  for (name, v) in listed.mergeSort fun a b => Text.precedes a.1 b.1 do
    let value := match v.value? with
      | some value => '=' :: singleQuoted value
      | none => []
    emitLine (start ++ name ++ value)

/-- Give a mark to variables, with new values for those that have an equals sign. -/
def mark (builtin : String) (isMarked : Variable → Bool) (set : Variable → Variable) : Builtin :=
  fun arguments => do
    let (found, names) ← options "p" arguments
    if !found.isEmpty || names.isEmpty then listVariables (builtin.toList ++ [' ']) isMarked
    else
      for argument in names do
        match Text.cut '=' argument with
        | some (name, value) => do
            let before ← changeable name
            let exported := before.isExported || (← getShell).has 'a'
            change fun shell => shell.put name (set ⟨some value, exported, false⟩)
        | none =>
            match (← getShell).named.lookup argument with
            | some v => change fun shell => shell.put argument (set v)
            | none => do
                let before ← changeable argument
                change fun shell => shell.put argument (set before)
    pure 0

/-- Hand variables on to programs. -/
def exports : Builtin :=
  mark "export" Variable.isExported fun v => { v with isExported := true }

/-- Let variables keep their values for good. -/
def constants : Builtin :=
  mark "readonly" Variable.isConstant fun v => { v with isConstant := true }

/-- Note what the innermost function gives back when it is left. -/
def keep (kept : Kept) : Run Unit :=
  change fun shell =>
    match shell.scopes with
    | scope :: outer => { shell with scopes := (kept :: scope) :: outer }
    | [] => shell

/-- Make a variable one of the innermost function, or the options for a dash. -/
def makeLocal (isExported : Bool) (argument : Text) : Run Unit := do
  let shell ← getShell
  if argument = ['-'] then keep (.options shell.options)
  else
    let (name, value?) := match Text.cut '=' argument with
      | some (name, value) => (name, some value)
      | none => (argument, none)
    match shell.named.lookup name, value? with
    | none, some value => do
        change fun shell => shell.put name ⟨some value, isExported || shell.has 'a', false⟩
        keep (.variable name none)
    | none, none => do
        let _ ← changeable name
        change fun shell => shell.put name ⟨none, isExported || shell.has 'a', false⟩
        keep (.variable name none)
    | some v, some value => do
        assign name value isExported
        keep (.variable name (some v))
    | some v, none => keep (.variable name (some v))

/-- Make variables those of the innermost function. -/
def locals : Builtin := fun arguments => do
  if (← getShell).scopes.isEmpty then abort "not in a function".toList
  for argument in arguments do makeLocal false argument
  pure 0

/-- Forget variables or functions. -/
def forget : Builtin := fun arguments => do
  let (found, names) ← options "vf" arguments
  for name in names do
    if found.getLast?.map Prod.fst = some 'f' then
      change fun shell => { shell with functions := removeKey name shell.functions }
    else unset name
  pure 0

/-! ### Options and parameters of the shell -/

/-- The options of a shell by their names, in the order that they are listed in.  The last two
have no letter of their own. -/
def optionNames : List (String × Char) :=
  [("errexit", 'e'), ("noglob", 'f'), ("ignoreeof", 'I'), ("interactive", 'i'), ("monitor", 'm'),
    ("noexec", 'n'), ("stdin", 's'), ("xtrace", 'x'), ("verbose", 'v'), ("vi", 'V'),
    ("emacs", 'E'), ("noclobber", 'C'), ("allexport", 'a'), ("notify", 'b'), ("nounset", 'u'),
    ("privileged", 'p'), ("nolog", '1'), ("debug", '2')]

/-- Set an option or take it back.  There is no terminal that jobs could be controlled from. -/
def setOption (option : Char) (value : Bool) : Run Unit := do
  let without (shell : Session) (options : List Char) : List Char :=
    shell.options.filter fun c => !options.contains c
  if !value then change fun shell => { shell with options := without shell [option] }
  else if option = 'm' then warn "can't access tty; job control turned off".toList
  else
    let off := if option = 'V' then ['V', 'E'] else if option = 'E' then ['V', 'E'] else [option]
    change fun shell => { shell with options := option :: without shell off }

/-- Set the option of a name, or list all of them where there is no name. -/
def setNamed (value : Bool) : List Text → Run Unit
  | name :: _ =>
      match optionNames.lookup (String.ofList name) with
      | some option => setOption option value
      | none => abort ("Illegal option -o ".toList ++ name)
  | [] => do
      let shell ← getShell
      if value then emitLine "Current option settings".toList
      for (name, option) in optionNames do
        let isSet := shell.has option
        if value then
          emitLine (name.toList ++ List.replicate (16 - name.length) ' ' ++
            (if isSet then "on" else "off").toList)
        else emitLine ((if isSet then "set -o " else "set +o ").toList ++ name.toList)

/-- Set the options that letters tell, with the arguments behind them. -/
def setLetters (value : Bool) : Text → List Text → Run (List Text)
  | [], rest => pure rest
  | 'o' :: more, rest => do
      setNamed value rest
      setLetters value more rest.tail
  | c :: more, rest => do
      if c.isDigit || !optionNames.any (fun entry => entry.2 == c) then
        abort ("Illegal option -".toList ++ [c])
      setOption c value
      setLetters value more rest

/-- Take other parameters. -/
def setParameters (parameters : List Text) : Run Unit :=
  change fun shell =>
    { shell with parameters := parameters, optionIndex := 1, optionOffset := none }

/-- Set the options among arguments.  The fuel is the number of arguments. -/
def setAll : Nat → List Text → Run (List Text)
  | fuel + 1, ('-' :: letters) :: rest =>
      match letters with
      | [] => do
          change fun shell =>
            { shell with options := shell.options.filter fun c => c != 'x' && c != 'v' }
          pure rest
      | ['-'] => do
          if rest.isEmpty then setParameters []
          pure rest
      | _ => do setAll fuel (← setLetters true letters rest)
  | fuel + 1, ('+' :: letters) :: rest => do setAll fuel (← setLetters false letters rest)
  | _, rest => pure rest

/-- Set options or parameters. -/
def set : Builtin := fun arguments => do
  if arguments.isEmpty then listVariables [] fun v => v.value?.isSome
  else
    let rest ← setAll arguments.length arguments
    if !rest.isEmpty then setParameters rest
  pure 0

/-- Drop parameters from the front. -/
def shift : Builtin := fun arguments => do
  let n ← match arguments with
    | first :: _ => count first
    | [] => pure 1
  let shell ← getShell
  if shell.parameters.length < n then abort "can't shift that many".toList
  setParameters (shell.parameters.drop n)
  pure 0

/-! ### Reading options -/

/-- Whether a letter is one of the options that a script knows, and then whether it has a
value. -/
def scriptOption? (c : Char) : Text → Option Bool
  | [] => none
  | d :: rest =>
      if c = d then some (rest.head? == some ':')
      else
        match rest with
        | ':' :: rest => scriptOption? c rest
        | rest => scriptOption? c rest

/-- Where the reading of options is: behind a letter of an argument, or in front of one. -/
structure OptionPlace where
  index : Nat
  offset : Option Nat

/-- What the reading of an option comes to: the letter, the value of its argument, a complaint,
and where the reading is. -/
structure OptionRead where
  letter : Char
  value? : Option Text
  complaint : Text
  done : Bool
  place : OptionPlace

/-- Read the next option among words. -/
def readOption (known : Text) (words : List Text) (place : OptionPlace) : OptionRead :=
  let current : Text := match place.offset with
    | some offset => (words[place.index - 2]?.getD []).drop offset
    | none => []
  let inWord := 1 < place.index && place.offset.isSome && !current.isEmpty
  let index := if inWord then place.index else place.index + 1
  let word := if inWord then current else words[place.index - 1]?.getD []
  let atEnd (index : Nat) : OptionRead := ⟨'?', none, [], true, ⟨index, none⟩⟩
  let silent := known.head? == some ':'
  match if inWord then word else word.drop 1 with
  | [] => atEnd place.index
  | c :: more =>
      if !inWord && word.head? != some '-' then atEnd place.index
      else if !inWord && word = ['-', '-'] then atEnd index
      else
        let offset := (words[index - 2]?.getD []).length - more.length
        match scriptOption? c known with
        | none =>
            let complaint := "Illegal option -".toList ++ [c, '\n']
            ⟨'?', if silent then some [c] else none, if silent then [] else complaint, false,
              ⟨index, some offset⟩⟩
        | some false => ⟨c, some [], [], false, ⟨index, some offset⟩⟩
        | some true =>
            if !more.isEmpty then ⟨c, some more, [], false, ⟨index, none⟩⟩
            else
              match words[index - 1]? with
              | some value => ⟨c, some value, [], false, ⟨index + 1, none⟩⟩
              | none =>
                  if silent then ⟨':', some [c], [], false, ⟨index, some offset⟩⟩
                  else ⟨'?', none, "No arg for -".toList ++ c :: " option\n".toList, false,
                    ⟨index, some offset⟩⟩

/-- Read the next option of the parameters, or of arguments. -/
def readOptions : Builtin := fun arguments => do
  match ← operands arguments with
  | known :: name :: given => do
      let shell ← getShell
      let words := if given.isEmpty then shell.parameters else given
      let place : OptionPlace :=
        if words.length + 1 < shell.optionIndex then ⟨1, none⟩
        else ⟨shell.optionIndex, shell.optionOffset⟩
      let read := readOption known words place
      complainRaw read.complaint
      if !read.done then
        match read.value? with
        | some value => assign "OPTARG".toList value
        | none => unset "OPTARG".toList
      assign "OPTIND".toList (Numeral.render read.place.index)
      assign name [read.letter]
      change fun shell =>
        { shell with optionIndex := read.place.index, optionOffset := read.place.offset }
      pure (if read.done then 1 else 0)
  | _ => abort "Usage: getopts optstring var [arg...]".toList

/-! ### Reading lines -/

/-- A line that was read: its characters with whether a backslash protects them, in reverse, the
number of bytes it took, and whether it was complete. -/
structure LineRead where
  characters : List (Char × Bool)
  taken : Nat
  complete : Bool

/-- Read a line.  A backslash protects the character behind it and joins lines, unless it is to
be taken as it is. -/
def readLine (raw : Bool) (taken : Nat) (line : List (Char × Bool)) : Text → LineRead
  | [] => ⟨line, taken, false⟩
  | '\n' :: _ => ⟨line, taken + 1, true⟩
  | '\\' :: rest =>
      if raw then readLine raw (taken + 1) (('\\', false) :: line) rest
      else
        match h : rest.dropWhile fun c => c == '\x00' with
        | [] => ⟨line, taken + 1 + rest.length, false⟩
        | c :: after =>
            have : after.length < rest.length := by
              have := (List.dropWhile_sublist (fun c => c == '\x00') (l := rest)).length_le
              rw [h] at this
              exact this
            let taken := taken + 1 + (rest.length - after.length)
            if c = '\n' then readLine raw taken line after
            else readLine raw taken ((c, true) :: line) after
  | c :: rest =>
      if c = '\x00' then readLine raw (taken + 1) line rest
      else readLine raw (taken + 1) ((c, false) :: line) rest
termination_by s => s.length
decreasing_by all_goals simp only [List.length_cons]; omega

/-- The regions of characters that no backslash protects. -/
def plainRegions (characters : List (Char × Bool)) : List Region :=
  go 0 0 characters
where
  /-- Go on at a position, with the start of the region that it is in. -/
  go (start position : Nat) : List (Char × Bool) → List Region
    | [] => [⟨start, position, false⟩]
    | (_, isProtected) :: rest =>
        if isProtected then ⟨start, position, false⟩ :: go (position + 1) (position + 1) rest
        else go start (position + 1) rest

/-- Read a line of the input into variables. -/
def read : Builtin := fun arguments => do
  let (found, names) ← options "p:r" arguments
  if names.isEmpty then abort "arg count".toList
  let raw := found.any fun entry => entry.1 == 'r'
  let input ← await 0 pipeCapacity (fun text => (readLine raw 0 [] text).complete) patience
  let line := readLine raw 0 [] ((input.toOption.map Prod.fst).getD [])
  changeSystem fun system => system.skip 0 line.taken
  let characters := line.characters.reverse
  let glyphs := characters.map fun (c, isProtected) => Glyph.character c isProtected
  let fields := Fields.splitInto names.length (← getShell).separators glyphs
    (plainRegions characters)
  for (name, i) in names.zipIdx do assign name (Glyph.text (fields[i]?.getD []))
  pure (if line.complete then 0 else 1)

end Reroute.Shell.Builtin

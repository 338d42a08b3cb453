import Reroute.Shell.Builtin.Basic
import Reroute.Shell.Format

/-!
The builtins for the place of a shell among others: the directory that it is in, the rights of
new files, its limits, its time, and its aliases.
-/
namespace Reroute.Shell.Builtin

open Machine

/-! ### Directories -/

/-- The names in a path. -/
def namesOf (path : Text) : List Text :=
  (path.splitOn '/').filter fun name => !name.isEmpty

/-- The absolute path that a path leads to from another without regard to links: single dots
stand for nothing, and double ones take a name back.  Two slashes in front stay two. -/
def logicalPath (origin path : Text) : Text :=
  let isAbsolute := path.head? == some '/'
  let start := if isAbsolute then [] else (namesOf origin).reverse
  let walked := (namesOf path).foldl (fun names name =>
    if name = ['.'] then names
    else if name = ['.', '.'] then names.drop 1
    else name :: names) start
  let slashes := match if isAbsolute then path else origin with
    | '/' :: '/' :: '/' :: _ => ['/']
    | '/' :: '/' :: _ => ['/', '/']
    | _ => ['/']
  slashes ++ Text.joinWith ['/'] walked.reverse

/-- Go to a directory, by its path as it is or without regard to links.  The result tells whether
that was possible. -/
def goTo (physical : Bool) (path : Text) : Run Bool := do
  let shell ← getShell
  let system ← getSystem
  let whereabouts := logicalPath shell.whereabouts path
  let target := if physical then path else whereabouts
  match system.disk.find system.process.here target with
  | .error _ => pure false
  | .ok id =>
      match system.disk.node? id with
      | some (.directory ..) => do
          changeSystem fun system => { system with process := { system.process with here := id } }
          let after := if physical then system.disk.pathOf id else whereabouts
          assign "OLDPWD".toList shell.whereabouts true
          change fun shell => { shell with whereabouts := after }
          assign "PWD".toList after true
          pure true
      | _ => pure false

/-- Whether the last of the options asks for paths as they are. -/
def isPhysical (found : List (Char × Text)) : Bool :=
  (found.getLast?.map Prod.fst) == some 'P'

/-- The directories to look for a path in: those of a list, unless the path tells its place
itself.  Each comes with whether it is worth telling. -/
def candidates (shell : Session) (path : Text) : List (Text × Bool) :=
  let first := (path.splitOn '/').headD []
  if path.head? == some '/' || first = ['.'] || first = ['.', '.'] then [(path, false)]
  else
    let path := if path.isEmpty then ['.'] else path
    match shell.value? "CDPATH".toList with
    | none => [(path, false)]
    | some list =>
        (list.splitOn ':').map fun directory =>
          if directory.isEmpty then (path, false) else (directory ++ '/' :: path, true)

/-- Change the directory. -/
def changeDirectory : Builtin := fun arguments => do
  let (found, rest) ← options "LP" arguments
  let shell ← getShell
  let system ← getSystem
  let (path, back) := match rest with
    | [] => ((shell.value? "HOME".toList).getD [], false)
    | ['-'] :: _ => ((shell.value? "OLDPWD".toList).getD [], true)
    | path :: _ => (path, false)
  let (target, told) := ((candidates shell path).find? fun entry =>
    system.isDirectory entry.1).getD (path, false)
  if !(← goTo (isPhysical found) target) then abort ("can't cd to ".toList ++ path)
  if back || told then emitLine (← getShell).whereabouts
  pure 0

/-- Tell the directory. -/
def tellDirectory : Builtin := fun arguments => do
  let (found, _) ← options "LP" arguments
  let shell ← getShell
  let system ← getSystem
  emitLine (if isPhysical found then system.disk.pathOf system.process.here
    else shell.whereabouts)
  pure 0

/-! ### Rights -/

/-- The letters of three rights. -/
def rightLetters (rights : Nat) : Text :=
  (if rights &&& 4 != 0 then ['r'] else []) ++ (if rights &&& 2 != 0 then ['w'] else []) ++
    if rights &&& 1 != 0 then ['x'] else []

/-- The places of the owners that letters name. -/
def ownerPlaces (owners : Text) : Nat :=
  let places := owners.foldl (fun places c =>
    places ||| (match c with
      | 'a' => 0o111
      | 'u' => 0o100
      | 'g' => 0o010
      | _ => 0o001)) 0
  if places = 0 then 0o111 else places

/-- The rights that letters name, where some stand for rights that there are. -/
def namedRights (rights : Nat) (letters : Text) : Nat :=
  letters.foldl (fun named c =>
    named ||| (match c with
      | 'r' => 4
      | 'w' => 2
      | 'x' => 1
      | 'u' => rights >>> 6
      | 'g' => rights >>> 3
      | 'o' => rights
      | 'X' => if rights &&& 0o111 != 0 then 1 else 0
      | _ => 0)) 0 &&& 7

/-- Change rights as operators behind owners tell.  The owners are known, or are to be read.  The
fuel is the length of the text. -/
def changedRights (before : Nat) : Nat → Option Nat → Nat → Text → Option Nat
  | _, _, rights, [] => some rights
  | 0, _, _, _ => none
  | fuel + 1, places?, rights, s =>
      let owners := s.takeWhile fun c => "augo".toList.contains c
      let places := match places? with
        | some places => if owners.isEmpty then places else places ||| ownerPlaces owners
        | none => ownerPlaces owners
      match s.drop owners.length with
      | [] => some rights
      | operator :: rest =>
          if !(['=', '+', '-'].contains operator) then none
          else
            let letters := rest.takeWhile fun c => "rwxugoXs".toList.contains c
            let named := namedRights before letters * places
            let rights :=
              if operator = '+' then rights ||| named
              else if operator = '-' then rights &&& (0o777 ^^^ (named &&& 0o777))
              else named ||| (rights &&& (0o777 ^^^ (places * 7)))
            match rest.drop letters.length with
            | ',' :: rest => changedRights before fuel none rights rest
            | c :: rest =>
                if ['=', '+', '-'].contains c then
                  changedRights before fuel (some places) rights (c :: rest)
                else none
            | [] => some rights

/-- Octal digits, as many at least. -/
def octal (least n : Nat) : Text :=
  let digits := Nat.toDigits 8 n
  List.replicate (least - digits.length) '0' ++ digits

/-- Tell or set the rights that new files do not get. -/
def mask : Builtin := fun arguments => do
  let (found, rest) ← options "S" arguments
  let mask := (← getSystem).process.mask
  let put (mask : Nat) : Run Unit :=
    changeSystem fun system => { system with process := { system.process with mask := mask } }
  match rest with
  | [] =>
      if found.isEmpty then emitLine (octal 4 mask)
      else
        let rights := 0o777 ^^^ mask
        emitLine ("u=".toList ++ rightLetters (rights >>> 6) ++ ",g=".toList ++
          rightLetters (rights >>> 3) ++ ",o=".toList ++ rightLetters rights)
  | mode :: _ =>
      if (mode.head?.map Char.isDigit).getD false then
        if !mode.all Format.isOctal then abort ("Illegal number: ".toList ++ mode)
        put (Integer.valueOf 8 mode &&& 0o777)
      else
        match changedRights (0o777 ^^^ mask) mode.length none (0o777 ^^^ mask) mode with
        | some rights => put (0o777 ^^^ (rights &&& 0o777))
        | none => abort ("Illegal mode: ".toList ++ mode)
  pure 0

/-! ### Limits and times -/

/-- The limits of a process: their letters, how they are listed, and what they are. -/
def limits : List (Char × String × String) :=
  [('t', "time(seconds)        ", "unlimited"), ('f', "file(blocks)         ", "unlimited"),
    ('d', "data(kbytes)         ", "unlimited"), ('s', "stack(kbytes)        ", "8192"),
    ('c', "coredump(blocks)     ", "0"), ('m', "memory(kbytes)       ", "unlimited"),
    ('l', "locked memory(kbytes) ", "8192"), ('p', "process              ", "unlimited"),
    ('n', "nofiles              ", "1048576"), ('v', "vmemory(kbytes)      ", "unlimited"),
    ('w', "locks                ", "unlimited"), ('r', "rtprio               ", "0")]

/-- Tell the limits.  What is set to a number is taken and forgotten. -/
def limit : Builtin := fun arguments => do
  let (found, rest) ← options "HSatfdscmlpnvwr" arguments
  let letters := found.map Prod.fst
  let listed := letters.contains 'a'
  let letter := (letters.filter fun c => !(['H', 'S', 'a'].contains c)).getLast?.getD 'f'
  match rest with
  | [] =>
      for (c, name, value) in limits do
        if listed then emitLine (name.toList ++ value.toList)
        else if c = letter then emitLine value.toList
      pure 0
  | [value] =>
      if listed then abort "too many arguments".toList
      if value != "unlimited".toList && !value.all Char.isDigit then abort "bad number".toList
      pure 0
  | _ => abort "too many arguments".toList

/-- Tell the time that was spent, which is none. -/
def times : Builtin := fun _ => do
  emitLine "0m0.000000s 0m0.000000s".toList
  emitLine "0m0.000000s 0m0.000000s".toList
  pure 0

/-! ### Aliases -/

/-- How an alias is listed. -/
def aliasLine (name value : Text) : Text := name ++ '=' :: singleQuoted value

/-- Define aliases or tell them. -/
def aliases : Builtin := fun arguments => do
  if arguments.isEmpty then
    let listed := (← getShell).aliases.mergeSort fun a b =>
      Session.placeOf 39 a.1 ≤ Session.placeOf 39 b.1
    for (name, value) in listed do emitLine (aliasLine name value)
  let missing ← arguments.filterM fun argument => do
    -- An equals sign in front belongs to the name.
    match Text.cut '=' (argument.drop 1) with
    | some (name, value) => do
        let name := argument.take 1 ++ name
        change fun shell =>
          { shell with
            aliases :=
              if (shell.aliases.lookup name).isSome then
                shell.aliases.map fun entry => if entry.1 == name then (name, value) else entry
              else shell.aliases ++ [(name, value)] }
        pure false
    | none =>
        match (← getShell).aliases.lookup argument with
        | some value => do
            emitLine (aliasLine argument value)
            pure false
        | none => do
            complainRaw ("alias: ".toList ++ argument ++ " not found\n".toList)
            pure true
  pure (if missing.isEmpty then 0 else 1)

/-- Forget aliases. -/
def forgetAliases : Builtin := fun arguments => do
  let (found, names) ← options "a" arguments
  if !found.isEmpty then
    change fun shell => { shell with aliases := [] }
    pure 0
  else
    let missing ← names.filterM fun name => do
      if ((← getShell).aliases.lookup name).isSome then do
        change fun shell => { shell with aliases := removeKey name shell.aliases }
        pure false
      else do
        complainRaw ("unalias: ".toList ++ name ++ " not found\n".toList)
        pure true
    pure (if missing.isEmpty then 0 else 1)

end Reroute.Shell.Builtin

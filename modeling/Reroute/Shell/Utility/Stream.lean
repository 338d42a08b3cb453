import Reroute.Shell.Utility.Basic

/-!
Utilities that hand their input on as it comes, and those that do little more than end.
-/
namespace Reroute.Shell.Utility

open Machine

/-- End with a status. -/
def ends (status : Nat) : Utility := fun _ => pure (.status status)

/-- What went wrong when something was handed on: the reading, or the writing. -/
inductive RelayError where
  | reading (error : SystemError)
  | writing (error : SystemError)

/-- Hand what a descriptor has on to the output as it comes. -/
def relay (descriptor : Nat) : Nat → Run (Option RelayError)
  | 0 => pure none
  | fuel + 1 => do
      match ← readSome descriptor portion with
      | .error error => pure (some (.reading error))
      | .ok (text, isEnd) => do
          match ← write 1 text with
          | .error error => pure (some (.writing error))
          | .ok () => if isEnd then pure none else relay descriptor fuel

/-- Hand a file on, where a dash stands for the input. -/
def relayFile (path : Text) : Run (Option RelayError) := do
  match ← withFile path fun descriptor => do pure (.ok (← relay descriptor patience)) with
  | .ok result => pure result
  | .error error => pure (some (.reading error))

/-- Hand files on, one behind the other. -/
def relayFiles (name : Text) (status : Nat) : List Text → Run Ending
  | [] => pure (.status status)
  | path :: rest => do
      match ← relayFile path with
      | none => relayFiles name status rest
      | some (.reading error) => do
          complain name (quotedIfNeeded path ++ ": ".toList ++ error.message)
          relayFiles name 1 rest
      | some (.writing error) => do
          complain name ("write error: ".toList ++ error.message)
          pure (.status 1)

/-- How a character is shown that has no form of its own. -/
def visible (c : Char) : Text :=
  let low (n : Nat) : Text :=
    if n = 0x7F then ['^', '?'] else if n < 0x20 then ['^', Char.ofNat (n + 0x40)] else [Char.ofNat n]
  if c.toNat < 0x80 then low c.toNat else 'M' :: '-' :: low (c.toNat - 0x80)

/-- Show the lines of a text as the options of `cat` ask. -/
def shownLines (parsed : Parsed) (s : Text) : Text :=
  let has := parsed.has
  let ends := has 'E' || has 'A' || has 'e'
  let tabs := has 'T' || has 'A' || has 't'
  let hidden := has 'v' || has 'A' || has 'e' || has 't'
  let form (c : Char) : Text :=
    if c = '\t' then if tabs then ['^', 'I'] else ['\t']
    else if hidden then visible c else [c]
  (go has ends form 1 false (lines s)).flatten
where
  /-- Go on with lines, the number of the next, and whether the last one was empty. -/
  go (has : Char → Bool) (ends : Bool) (form : Char → Text) (number : Nat)
      (wasEmpty : Bool) : List Text → List Text
    | [] => []
    | line :: rest =>
        let isEmpty := line = ['\n']
        if has 's' && isEmpty && wasEmpty then go has ends form number true rest
        else
          let numbered := if has 'b' then !isEmpty else has 'n'
          let digits := Numeral.render number
          let start := if numbered then
              List.replicate (6 - digits.length) ' ' ++ digits ++ ['\t']
            else []
          let body := (chomp line).flatMap form
          let finish := if line.getLast? == some '\n' then
              (if ends then ['$', '\n'] else ['\n'])
            else []
          (start ++ body ++ finish) ::
            go has ends form (if numbered then number + 1 else number) isEmpty rest

/-- The options of `cat`. -/
def catOptions : List Known :=
  [⟨'A', "show-all", .nothing⟩, ⟨'b', "number-nonblank", .nothing⟩, ⟨'e', "", .nothing⟩,
    ⟨'E', "show-ends", .nothing⟩, ⟨'n', "number", .nothing⟩, ⟨'s', "squeeze-blank", .nothing⟩,
    ⟨'t', "", .nothing⟩, ⟨'T', "show-tabs", .nothing⟩, ⟨'u', "", .nothing⟩,
    ⟨'v', "show-nonprinting", .nothing⟩]

/-- Write files one behind the other. -/
def cat : Utility := withOptions catOptions fun parsed call => do
  let paths := if parsed.operands.isEmpty then [['-']] else parsed.operands
  if ((← getSystem).openFile? 1).isNone then do
    complain call.name ("standard output: ".toList ++ SystemError.badDescriptor.message)
    pure (.status 1)
  else if (parsed.options.filter fun entry => entry.1 != 'u').isEmpty then do
    let ending ← relayFiles call.name 0 paths
    if paths.contains ['-'] && ((← getSystem).openFile? 0).isNone then
      complain call.name ("closing standard input: ".toList ++ SystemError.badDescriptor.message)
    pure ending
  else
    let (found, complete) ← gather call.name paths
    finish call.name (shownLines parsed (found.flatMap Prod.snd)) (if complete then 0 else 1)

/-- Write the input to the output and to files. -/
def tee : Utility := withOptions
    [⟨'a', "append", .nothing⟩, ⟨'i', "ignore-interrupts", .nothing⟩, ⟨'p', "", .nothing⟩]
    fun parsed call => do
  let appends := parsed.has 'a'
  let mut opened := []
  let mut status := 0
  for path in parsed.operands do
    match (← getSystem).openPath path
        { writes := true, appends := appends, creates := true, truncates := !appends } with
    | .ok (system, id) => do
        changeSystem fun _ => system
        opened := id :: opened
    | .error error => do
        complain call.name (quotedIfNeeded path ++ ": ".toList ++ error.message)
        status := 1
  let text := (← input 0).toOption.getD []
  for id in opened.reverse do
    changeSystem fun system => system.connect ownDescriptor id
    let _ ← write ownDescriptor text
  changeSystem fun system => system.close ownDescriptor
  match ← write 1 text with
  | .ok () => pure (.status status)
  | .error error => do
      complain call.name ("\'standard output\': ".toList ++ error.message)
      pure (.status 1)

/-- The milliseconds that a text of `sleep` tells: a number with a unit behind it. -/
def milliseconds? (s : Text) : Option Nat := do
  let number := s.takeWhile fun c => c.isDigit || c == '.'
  let factor ← match s.drop number.length with
    | [] | ['s'] => some 1
    | ['m'] => some 60
    | ['h'] => some 3600
    | ['d'] => some 86400
    | _ => none
  let whole := number.takeWhile Char.isDigit
  let places := (number.drop (whole.length + 1))
  if (whole.isEmpty && places.isEmpty) || !places.all Char.isDigit then none
  else
    let digits := (places ++ ['0', '0', '0']).take 3
    pure ((Numeral.value whole * 1000 + Numeral.value digits) * factor)

/-- Wait for some time. -/
def sleep : Utility := withOptions [] fun parsed call => do
  if parsed.operands.isEmpty then missingOperand call []
  else
    let unknown := parsed.operands.filter fun s =>
      s != "infinity".toList && (milliseconds? s).isNone
    for s in unknown do complain call.name ("invalid time interval ".toList ++ quoted s)
    if !unknown.isEmpty then do
      let _ ← write 2 ("Try \'".toList ++ call.name ++
        " --help\' for more information.\n".toList)
      pure (.status 1)
    else
      let total := parsed.operands.foldl (fun total s =>
        total + (milliseconds? s).getD 100000000000) 0
      Machine.sleep total
      pure (.status 0)

/-- The utilities of this kind by their names. -/
def streamUtilities : List (String × Utility) :=
  [("cat", cat), ("tee", tee), ("sleep", sleep), ("true", ends 0), ("false", ends 1)]

end Reroute.Shell.Utility

import Reroute.Shell.Condition
import Reroute.Shell.Format
import Reroute.Shell.Utility.Basic

/-!
Utilities that write what their arguments say: words, formats, parts of paths, rows of numbers
and factors, and the one that tells whether a condition holds.
-/
namespace Reroute.Shell.Utility

open Machine

/-! ### Words and formats -/

/-- Read up to so many digits of a base: their value and what follows them. -/
def digitsUpTo (base most : Nat) (s : Text) : Nat × Text :=
  let digits := (s.take most).takeWhile (Integer.isDigitOf base)
  (Integer.valueOf base digits, s.drop digits.length)

/-- Resolve the escapes of an argument of `echo`.  The second component tells whether the output
ends there. -/
def resolved : Nat → Text → Text × Bool
  | 0, s => (s, false)
  | _, [] => ([], false)
  | fuel + 1, '\\' :: rest =>
      let onward (c : Char) (rest : Text) : Text × Bool :=
        let (tail, stopped) := resolved fuel rest
        (c :: tail, stopped)
      let isOctal := Integer.isDigitOf 8
      match rest with
      | 'c' :: _ => ([], true)
      | '0' :: rest =>
          let (n, rest) := digitsUpTo 8 3 rest
          onward (Char.ofNat (n % 256)) rest
      | 'x' :: d :: more =>
          if Integer.isDigitOf 16 d then
            let (n, rest) := digitsUpTo 16 2 (d :: more)
            onward (Char.ofNat n) rest
          else onward '\\' rest
      | c :: more =>
          if isOctal c then
            let (n, rest) := digitsUpTo 8 3 (c :: more)
            onward (Char.ofNat (n % 256)) rest
          else
            match Format.escaped? c with
            | some value => onward value more
            | none => onward '\\' rest
      | [] => onward '\\' []
  | fuel + 1, c :: rest =>
      let (tail, stopped) := resolved fuel rest
      (c :: tail, stopped)

/-- Join words by blanks, with their escapes resolved until one ends the output. -/
def resolvedWords (finish : Text) : List Text → Text
  | [] => finish
  | first :: rest =>
      let (text, stopped) := resolved first.length first
      if stopped then text
      else if rest.isEmpty then text ++ finish
      else text ++ ' ' :: resolvedWords finish rest

/-- Whether an argument holds options of `echo`. -/
def isEchoOption (s : Text) : Bool :=
  match s with
  | '-' :: c :: rest => (c :: rest).all fun d => d == 'n' || d == 'e' || d == 'E'
  | _ => false

/-- Write the arguments. -/
def echo : Utility := fun call => do
  let options := (call.arguments.takeWhile isEchoOption).flatten
  let words := call.arguments.dropWhile isEchoOption
  let finish := if options.contains 'n' then [] else ['\n']
  let escapes := (options.reverse.find? fun c => c == 'e' || c == 'E') == some 'e'
  finishWith call (if escapes then resolvedWords finish words
    else Text.joinWith [' '] words ++ finish)
where
  /-- Write the output and succeed. -/
  finishWith (call : Call) (text : Text) : Run Ending := Utility.finish call.name text 0

/-- What is complained of the number of an argument. -/
def numberComplaint (complaint : Format.Complaint) : Text :=
  quoted complaint.argument ++ match complaint.flaw with
    | .notNumeric => ": expected a numeric value".toList
    | .unconverted => ": value not completely converted".toList
    | .outOfRange => ": Numerical result out of range".toList

/-- What is complained of a format. -/
def formatComplaint : Format.Fault → Text
  | .unfinished => "%: invalid conversion specification".toList
  | .invalid directive => directive ++ ": invalid conversion specification".toList

/-- Write what a format makes of arguments. -/
def printf : Utility := fun call => do
  let arguments := match call.arguments with
    | ['-', '-'] :: rest => rest
    | arguments => arguments
  match arguments with
  | [] => missingOperand call []
  | pattern :: rest => do
      let output := Format.format pattern (rest.length + 1) rest
      for complaint in output.complaints do complain call.name (numberComplaint complaint)
      match output.fault with
      | some fault => do
          let _ ← write 1 output.text
          complain call.name (formatComplaint fault)
          pure (.status 1)
      | none => do
          match output.arguments with
          | excess :: _ =>
              if !output.used && !output.stopped then
                complain call.name
                  ("warning: ignoring excess arguments, starting with ".toList ++ quoted excess)
          | [] => pure ()
          finish call.name output.text (if output.complaints.isEmpty then 0 else 1)

/-- Tell whether a condition holds. -/
def test : Utility := fun call => do
  let bracket := call.name.getLast? == some '['
  if bracket && call.arguments.getLast? != some [']'] then do
    complain call.name "missing \']\'".toList
    pure (.status 2)
  else
    let arguments := if bracket then call.arguments.dropLast else call.arguments
    match Condition.holds (← getSystem) arguments with
    | .ok true => pure (.status 0)
    | .ok false => pure (.status 1)
    | .error reason => do
        complain call.name <| match Text.after? "Illegal number: ".toList reason with
          | some text => "invalid integer ".toList ++ quoted text
          | none => reason
        pure (.status 2)

/-- Write a line again and again. -/
def yes : Utility := withOptions [] fun parsed call => do
  let words := if parsed.operands.isEmpty then [['y']] else parsed.operands
  let line := Text.joinWith [' '] words ++ ['\n']
  let block := (List.replicate (4096 / line.length + 1) line).flatten
  go call block patience
where
  /-- Write a block again and again. -/
  go (call : Call) (block : Text) : Nat → Run Ending
    | 0 => pure (.status 0)
    | fuel + 1 => do
        match ← write 1 block with
        | .ok () => do
            yield
            go call block fuel
        | .error error => do
            complain call.name ("standard output: ".toList ++ error.message)
            pure (.status 1)

/-! ### Parts of paths -/

/-- A path less the slashes at its end.  One that has nothing else keeps the first. -/
def withoutFinalSlashes (path : Text) : Text :=
  match (path.reverse.dropWhile fun c => c == '/').reverse with
  | [] => path.take 1
  | rest => rest

/-- The last name of a path. -/
def lastName (path : Text) : Text :=
  match withoutFinalSlashes path with
  | ['/'] => ['/']
  | path => (path.reverse.takeWhile fun c => c != '/').reverse

/-- The path of the directory that a path leads into. -/
def directoryName (path : Text) : Text :=
  let path := withoutFinalSlashes path
  if !path.contains '/' then ['.']
  else withoutFinalSlashes (path.reverse.dropWhile fun c => c != '/').reverse

/-- A name less what it ends with, unless nothing else is left. -/
def withoutEnd (finish name : Text) : Text :=
  match Text.before? finish name with
  | some [] | none => name
  | some rest => rest

/-- Write the last names of paths. -/
def basename : Utility := withOptions
    [⟨'a', "multiple", .nothing⟩, ⟨'s', "suffix", .value⟩, ⟨'z', "zero", .nothing⟩]
    (run) 1 false
where
  /-- Go on behind the options. -/
  run (parsed : Parsed) (call : Call) : Run Ending :=
    let finish := if parsed.has 'z' then ['\x00'] else ['\n']
    let cut (suffix path : Text) : Text :=
      (if suffix.isEmpty then lastName path else withoutEnd suffix (lastName path)) ++ finish
    if parsed.operands.isEmpty then missingOperand call []
    else if parsed.has 'a' || parsed.has 's' then
      Utility.finish call.name (parsed.operands.flatMap (cut ((parsed.value? 's').getD []))) 0
    else
      match parsed.operands with
      | _ :: _ :: extra :: _ => extraOperand call extra
      | [path, suffix] => Utility.finish call.name (cut suffix path) 0
      | paths => Utility.finish call.name (paths.flatMap (cut [])) 0

/-- Write the directories of paths. -/
def dirname : Utility := withOptions [⟨'z', "zero", .nothing⟩] (run) 1 false
where
  /-- Go on behind the options. -/
  run (parsed : Parsed) (call : Call) : Run Ending :=
    let finish := if parsed.has 'z' then ['\x00'] else ['\n']
    if parsed.operands.isEmpty then missingOperand call []
    else
      Utility.finish call.name
        (parsed.operands.flatMap fun path => directoryName path ++ finish) 0

/-! ### Numbers -/

/-- A decimal number: `units / 10 ^ places`. -/
structure Decimal where
  units : Int
  places : Nat

namespace Decimal

/-- The number in units of more places. -/
def scaled (decimal : Decimal) (places : Nat) : Int :=
  decimal.units * (Nat.pow 10 (places - decimal.places) : Nat)

/-- Read a decimal number. -/
def read? (s : Text) : Option Decimal := do
  let (negative, body) := match s.dropWhile isSpacing with
    | '-' :: rest => (true, rest)
    | '+' :: rest => (false, rest)
    | rest => (false, rest)
  let (digits, places, rest) := Floating.readDigits 10 body
  if digits.isEmpty then none
  else
    let (power, rest) := Floating.readExponent 'e' 'E' rest
    if !rest.isEmpty || 100 < power.natAbs then none
    else
      let shifted : Int := (places : Int) - power
      let value : Int :=
        (Numeral.value digits : Int) * (Nat.pow 10 (-shifted).toNat : Nat)
      pure ⟨if negative then -value else value, shifted.toNat⟩

/-- The text of so many units. -/
def render (units : Int) (places : Nat) : Text :=
  (if units < 0 then ['-'] else []) ++
    Floating.withPoint (Numeral.render units.natAbs) places false

end Decimal

/-- Fill a number with zeros behind its sign up to a width. -/
def zeroPadded (width : Nat) (s : Text) : Text :=
  match s with
  | '-' :: digits => '-' :: List.replicate (width - s.length) '0' ++ digits
  | _ => List.replicate (width - s.length) '0' ++ s

/-- Whether the value of an option of `seq` is the next argument. -/
def takesNext (option : Text) : Bool :=
  ["-s", "-f", "--separator", "--format"].contains (String.ofList option)

/-- The options in front of the numbers of `seq`; a negative number is none.  The value of an
option may be awaited. -/
def splitNumbers (awaited : Bool) : List Text → List Text × List Text
  | [] => ([], [])
  | first :: rest =>
      let isOption := match first with
        | '-' :: c :: _ => !(c.isDigit || c == '.')
        | _ => false
      if awaited || isOption && first != ['-', '-'] then
        let (options, numbers) := splitNumbers (!awaited && takesNext first) rest
        (first :: options, numbers)
      else ([], if isOption then rest else first :: rest)

/-- Write the numbers of a row, some at once: each is one step further, and the row ends with a
line feed. -/
def writeRow (call : Call) (form : Int → Text) (separator : Text) (step last : Int) :
    Nat → Int → Bool → Run Ending
  | 0, _, _ => pure (.status 0)
  | fuel + 1, n, isFirst => do
      let left := if 0 < step then (last - n) / step + 1 else (n - last) / (-step) + 1
      let count := (min left 500).toNat
      if count = 0 then
        if isFirst then pure (.status 0) else finish call.name ['\n'] 0
      else
        let text := (List.range count).flatMap fun (i : Nat) =>
          (if isFirst && i = 0 then [] else separator) ++ form (n + (i : Int) * step)
        match ← write 1 text with
        | .ok () => writeRow call form separator step last fuel (n + count * step) false
        | .error error => do
            complain call.name ("write error: ".toList ++ error.message)
            pure (.status 1)

/-- Write a row of numbers. -/
def seq : Utility := fun call =>
  let (options, numbers) := splitNumbers false call.arguments
  withOptions [⟨'f', "format", .value⟩, ⟨'s', "separator", .value⟩, ⟨'w', "equal-width", .nothing⟩]
    (run numbers) 1 true { call with arguments := options }
where
  /-- Go on behind the options. -/
  run (numbers : List Text) (parsed : Parsed) (call : Call) : Run Ending := do
    match numbers with
    | [] => missingOperand call []
    | _ :: _ :: _ :: extra :: _ => extraOperand call extra
    | numbers =>
        match numbers.find? fun s => (Decimal.read? s).isNone with
        | some s =>
            misused call.name ("invalid floating point argument: ".toList ++ quoted s)
        | none =>
            let values := numbers.filterMap Decimal.read?
            let (first, step, last) : Decimal × Decimal × Decimal := match values with
              | [last] => (⟨1, 0⟩, ⟨1, 0⟩, last)
              | [first, last] => (first, ⟨1, 0⟩, last)
              | [first, step, last] => (first, step, last)
              | _ => (⟨1, 0⟩, ⟨1, 0⟩, ⟨0, 0⟩)
            if step.units = 0 then
              misused call.name
                ("invalid Zero increment value: ".toList ++ quoted ((numbers[1]?).getD []))
            else
              let places := max first.places step.places
              let fine := max places last.places
              let last := last.scaled fine
              let scale : Int := (Nat.pow 10 (fine - places) : Nat)
              let last := if 0 < step.units then last / scale else -((-last) / scale)
              let (first, step) := (first.scaled places, step.scaled places)
              let plain (n : Int) : Text := Decimal.render n places
              let width := max (plain first).length (plain last).length
              let form (n : Int) : Text := match parsed.value? 'f' with
                | some pattern => (Format.format pattern 2 [plain n]).text
                | none => if parsed.has 'w' then zeroPadded width (plain n) else plain n
              writeRow call form ((parsed.value? 's').getD ['\n']) step last patience first true

/-- The prime factors of a number from a candidate on.  The fuel is a bound on the number of
candidates and factors. -/
def factorsFrom : Nat → Nat → Nat → List Nat
  | 0, _, n => [n]
  | fuel + 1, candidate, n =>
      if n < 2 then []
      else if n < candidate * candidate then [n]
      else if n % candidate = 0 then candidate :: factorsFrom fuel candidate (n / candidate)
      else factorsFrom fuel (if candidate = 2 then 3 else candidate + 2) n

/-- Write the prime factors of numbers. -/
def factor : Utility := withOptions [] fun parsed call => do
  let words ← if parsed.operands.isEmpty then do
      pure (Text.words ((← input 0).toOption.getD []))
    else pure parsed.operands
  let mut output := []
  let mut status := 0
  for word in words do
    let digits := if word.head? == some '+' then word.drop 1 else word
    if !digits.isEmpty && digits.all Char.isDigit then
      let n := Numeral.value digits
      let factors := (factorsFrom 5000000 2 n).map fun factor => ' ' :: Numeral.render factor
      output := (Numeral.render n ++ ':' :: factors.flatten ++ ['\n']) :: output
    else
      complain call.name (quoted word ++ " is not a valid positive integer".toList)
      status := 1
  finish call.name output.reverse.flatten status

/-- The utilities of this kind by their names. -/
def wordUtilities : List (String × Utility) :=
  [("echo", echo), ("printf", printf), ("test", test), ("[", test), ("yes", yes),
    ("basename", basename), ("dirname", dirname), ("seq", seq), ("factor", factor)]

end Reroute.Shell.Utility

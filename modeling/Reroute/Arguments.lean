import Reroute.Text.Numeral

/-!
The command line.  Options that take a value find it behind an equals sign, directly behind
their letter, or in the next argument; behind `--` everything is a file.  What a single
argument gets wrong ends the reading there, and what the whole gets wrong (values that are
missing, that do not fit or that come twice) is found afterwards.
-/
namespace Reroute

/-- An option that takes a value. -/
inductive ValueOption where
  | config
  | port
  | documentRoot
deriving Repr, DecidableEq

/-- Why a command line was refused, or what it asked for instead of a run. -/
inductive ArgumentError where
  | unknownArgument
  | emptyValue
  | invalidValue
  | repeatedOption
  | helpRequested
  | versionRequested
deriving Repr, DecidableEq

/-- A command line. -/
structure Arguments where
  rulesFile : Option Text
  config : Option Text
  port : Option Nat
  documentRoot : Option Text
  verbosity : Nat
deriving Repr, DecidableEq

/-- How much is logged. -/
inductive LogLevel where
  | error
  | info
  | debug
  | trace
deriving Repr, DecidableEq

namespace Arguments

/-- The options that take a value, in the order in which their values are examined. -/
def valueOptions : List ValueOption := [.config, .port, .documentRoot]

/-- The option of a long name. -/
def optionNamed? (name : Text) : Option ValueOption :=
  [("config".toList, .config), ("port".toList, .port),
    ("document-root".toList, .documentRoot)].lookup name

/-- The option of a letter. -/
def optionLettered? (letter : Char) : Option ValueOption :=
  [('c', .config), ('p', .port)].lookup letter

/-- A switch, which takes no value. -/
inductive Switch where
  | verbose
  | help
  | version
deriving Repr, DecidableEq

/-- The switch of a long name. -/
def switchNamed? (name : Text) : Option Switch :=
  [("verbose".toList, .verbose), ("help".toList, .help), ("version".toList, .version)].lookup name

/-- The switch of a letter. -/
def switchLettered? (letter : Char) : Option Switch :=
  [('v', .verbose), ('h', .help), ('V', .version)].lookup letter

/-- What has been read: the file, how often each option came, its values, the count of
`verbose`, the option whose value the next argument may be, and whether only files follow. -/
structure Reading where
  rulesFile : Option Text
  uses : List ValueOption
  values : List (ValueOption × Text)
  verbosity : Nat
  awaiting : Option ValueOption
  filesOnly : Bool

namespace Reading

/-- Nothing read. -/
def start : Reading := ⟨none, [], [], 0, none, false⟩

/-- Take a value of an option. -/
def give (reading : Reading) (option : ValueOption) (value : Text) : Reading :=
  { reading with values := reading.values ++ [(option, value)], awaiting := none }

/-- Take an option with the value that stands in the same argument, if there is one.  Equals
signs in front of the value do not belong to it. -/
def useOption (reading : Reading) (option : ValueOption) (value : Option Text) : Reading :=
  let reading := { reading with uses := option :: reading.uses }
  match value with
  | some value => reading.give option (value.dropWhile fun c => c == '=')
  | none => { reading with awaiting := some option }

/-- Take a switch.  One that asks for a text to be shown ends the reading. -/
def useSwitch (reading : Reading) : Switch → Except ArgumentError Reading
  | .verbose => .ok { reading with verbosity := reading.verbosity + 1, awaiting := none }
  | .help => .error .helpRequested
  | .version => .error .versionRequested

/-- Take a file.  There is one at most. -/
def useFile (reading : Reading) (path : Text) : Except ArgumentError Reading :=
  match reading.rulesFile with
  | none => .ok { reading with rulesFile := some path }
  | some _ => .error .unknownArgument

/-- Take an argument that begins with two dashes.  More dashes count as two. -/
def useLong (reading : Reading) (argument : Text) : Except ArgumentError Reading :=
  let body := argument.dropWhile fun c => c == '-'
  let (name, value) := match Text.cut '=' body with
    | some (name, value) => (name, some value)
    | none => (body, none)
  match optionNamed? name, switchNamed? name with
  | some option, _ => .ok (reading.useOption option value)
  | none, some switch => reading.useSwitch switch
  | none, none => .error .unknownArgument

/-- Take the letters behind a single dash.  What stands behind the letter of an option is
its value. -/
def useLetters (reading : Reading) : Text → Except ArgumentError Reading
  | [] => .ok reading
  | letter :: rest =>
      match optionLettered? letter, switchLettered? letter with
      | some option, _ =>
          .ok (reading.useOption option (if rest.isEmpty then none else some rest))
      | none, some switch => do useLetters (← reading.useSwitch switch) rest
      | none, none => .error .unknownArgument

/-- Take an argument. -/
def step (reading : Reading) (argument : Text) : Except ArgumentError Reading :=
  if reading.filesOnly then reading.useFile argument
  else
    match argument with
    | ['-', '-'] => .ok { reading with filesOnly := true }
    | '-' :: '-' :: _ => reading.useLong argument
    | '-' :: c :: rest => reading.useLetters (c :: rest)
    | _ =>
        match reading.awaiting with
        | some option => .ok (reading.give option argument)
        | none => reading.useFile argument

/-- The values of an option. -/
def valuesOf (reading : Reading) (option : ValueOption) : List Text :=
  (reading.values.filter fun entry => entry.1 == option).map Prod.snd

/-- Whether a text is a value of an option. -/
def accepts (option : ValueOption) (value : Text) : Bool :=
  match option with
  | .port => (Numeral.read? Numeral.maxWord16 value).isSome
  | _ => true

/-- What is wrong with the uses of an option. -/
def fault? (reading : Reading) (option : ValueOption) : Option ArgumentError :=
  let uses := reading.uses.count option
  let values := reading.valuesOf option
  if 0 < uses ∧ values.isEmpty then some .emptyValue
  else if !values.all (accepts option) then some .invalidValue
  else if 1 < uses then some .repeatedOption
  else none

/-- The command line that was read. -/
def finish (reading : Reading) : Except ArgumentError Arguments :=
  let awaited := reading.awaiting.filter fun option => (reading.valuesOf option).isEmpty
  match awaited, valueOptions.findSome? reading.fault? with
  | some _, _ => .error .emptyValue
  | none, some error => .error error
  | none, none =>
      let value? (option : ValueOption) := (reading.valuesOf option).head?
      .ok
        { rulesFile := reading.rulesFile
          config := value? .config
          port := (value? .port).bind (Numeral.read? Numeral.maxWord16)
          documentRoot := value? .documentRoot
          verbosity := reading.verbosity }

end Reading

/-- Read a command line. -/
def parse (arguments : List Text) : Except ArgumentError Arguments := do
  (← arguments.foldlM Reading.step .start).finish

/-- The level of logging that was asked for. -/
def logLevel (arguments : Arguments) : LogLevel :=
  match arguments.verbosity % 256 with
  | 0 => .error
  | 1 => .info
  | 2 => .debug
  | _ => .trace

end Arguments

end Reroute

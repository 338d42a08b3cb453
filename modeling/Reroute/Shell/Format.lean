import Reroute.Shell.Floating

/-!
The formats of `printf` and the escapes of `echo`.  A format is used again as long as there
are arguments, and arguments that are missing count as empty or zero.
-/
namespace Reroute.Shell.Format

/-- Whether a character is an octal digit. -/
def isOctal (c : Char) : Bool := '0' ≤ c && c ≤ '7'

/-- The character of an escape of one letter. -/
def escaped? (c : Char) : Option Char :=
  [('\\', '\\'), ('a', '\x07'), ('b', '\x08'), ('f', '\x0c'), ('n', '\n'), ('r', '\r'),
    ('t', '\t'), ('v', '\x0b'), ('e', '\x1b')].lookup c

/-- The byte of some octal digits. -/
def octalByte (digits : Text) : Char :=
  Char.ofNat (Integer.valueOf 8 digits % 256)

/-- Read an escape behind its backslash: one letter or up to three octal digits.  What is no
escape leaves the backslash. -/
def readEscape (s : Text) : Char × Text :=
  match (s.take 3).takeWhile isOctal with
  | [] =>
      match s with
      | c :: rest =>
          match escaped? c with
          | some value => (value, rest)
          | none => ('\\', s)
      | [] => ('\\', [])
  | digits => (octalByte digits, s.drop digits.length)

/-- Resolve the escapes of an argument.  Octal digits may have a zero in front of them, and
`\c` ends the output, which the second component tells. -/
def unescape : Nat → Text → Text × Bool
  | 0, s => (s, false)
  | _, [] => ([], false)
  | fuel + 1, '\\' :: rest =>
      match rest with
      | 'c' :: _ => ([], true)
      | '0' :: d :: rest =>
          let (c, rest) := if isOctal d then readEscape (d :: rest) else ('\x00', d :: rest)
          let (tail, stopped) := unescape fuel rest
          (c :: tail, stopped)
      | rest =>
          let (c, rest) := readEscape rest
          let (tail, stopped) := unescape fuel rest
          (c :: tail, stopped)
  | fuel + 1, c :: rest =>
      let (tail, stopped) := unescape fuel rest
      (c :: tail, stopped)

/-- Resolve all escapes of an argument. -/
def unescaped (s : Text) : Text × Bool := unescape s.length s

/-- The text that `echo` writes: its arguments with blanks between them, and a line feed unless
it is told otherwise. -/
def echo : List Text → Text
  | ['-', 'n'] :: rest => go [] rest
  | arguments => go ['\n'] arguments
where
  /-- Go on with the arguments; the text behind the last is given. -/
  go (finish : Text) : List Text → Text
    | [] => finish
    | first :: rest =>
        let (text, stopped) := unescaped first
        if stopped then text
        else if rest.isEmpty then text ++ finish
        else text ++ ' ' :: go finish rest

/-- A conversion of a format. -/
structure Directive where
  flags : Text
  width : Nat
  precision : Option Nat
  conversion : Char

/-- What is wrong with the number of an argument. -/
inductive Flaw where
  | notNumeric
  | unconverted
  | outOfRange
deriving Repr, DecidableEq

/-- An argument whose number is wrong. -/
structure Complaint where
  argument : Text
  flaw : Flaw

/-- The wording of a complaint. -/
def Complaint.message (complaint : Complaint) : Text :=
  complaint.argument ++ match complaint.flaw with
    | .notNumeric => ": expected numeric value".toList
    | .unconverted => ": not completely converted".toList
    | .outOfRange => ": Numerical result out of range".toList

/-- What ends a format early: it ends inside a directive, or has one that is none. -/
inductive Fault where
  | unfinished
  | invalid (directive : Text)

/-- The wording of what ends a format early. -/
def Fault.message : Fault → Text
  | .unfinished => "missing format character".toList
  | .invalid directive => directive ++ ": invalid directive".toList

/-- What a format comes to: the output, the complaints, what ended it early, and the arguments
that are left. -/
structure Output where
  text : Text
  complaints : List Complaint
  fault : Option Fault
  arguments : List Text
  used : Bool
  stopped : Bool

/-- Fill a text up to a width. -/
def pad (directive : Directive) (s : Text) : Text :=
  let missing := List.replicate (directive.width - s.length) ' '
  if directive.flags.contains '-' then s ++ missing else missing ++ s

/-- Fill a number up to a width, with zeros behind its sign and base if they are asked for. -/
def padNumber (directive : Directive) (zeros : Bool) (sign digits : Text) : Text :=
  if zeros && directive.flags.contains '0' && !directive.flags.contains '-' then
    sign ++ List.replicate (directive.width - sign.length - digits.length) '0' ++ digits
  else pad directive (sign ++ digits)

/-- The sign of a number. -/
def signOf (directive : Directive) (negative : Bool) : Text :=
  if negative then ['-'] else if directive.flags.contains '+' then ['+']
  else if directive.flags.contains ' ' then [' '] else []

/-- What is complained of a number that was read up to a rest. -/
def complaintsOf (s rest : Text) (isRead outOfRange : Bool) : List Complaint :=
  if !rest.isEmpty then [⟨s, if isRead then .unconverted else .notNumeric⟩]
  else if outOfRange then [⟨s, .outOfRange⟩]
  else []

/-- The number of an argument, with a complaint where it is none.  One that may not have a sign
is a word of 64 bits. -/
def numberArgument (signed : Bool) (s : Text) : Int × List Complaint :=
  match s with
  | '"' :: rest => ((rest.headD '\x00').toNat, [])
  | '\'' :: rest => ((rest.headD '\x00').toNat, [])
  | _ =>
      let (negative, body) := match s.dropWhile isSpacing with
        | '-' :: rest => (true, rest)
        | '+' :: rest => (false, rest)
        | rest => (false, rest)
      match Integer.natural? body with
      | none => (0, complaintsOf s s false false)
      | some (n, rest) =>
          let limit :=
            if signed then if negative then Integer.greatest + 1 else Integer.greatest
            else Numeral.maxWord64
          let value : Int :=
            if limit < n then if signed && negative then -(limit : Int) else limit
            else if negative then -(n : Int) else n
          (value, complaintsOf s rest true (limit < n))

/-- The digits of a number, at least as many as the precision asks for. -/
def digits (directive : Directive) (base : Nat) (n : Nat) : Text :=
  let text := if n = 0 && directive.precision = some 0 then [] else Nat.toDigits base n
  List.replicate (directive.precision.getD 1 - text.length) '0' ++ text

/-- A signed number. -/
def signed (directive : Directive) (n : Int) : Text :=
  padNumber directive directive.precision.isNone (signOf directive (n < 0))
    (digits directive 10 n.natAbs)

/-- A number as a word of 64 bits in some base. -/
def unsigned (directive : Directive) (base : Nat) (n : Int) : Text :=
  let word := (n % 0x10000000000000000).toNat
  let text := digits directive base word
  let alternative := directive.flags.contains '#'
  let start := if alternative && base = 16 && word != 0 then "0x".toList else []
  let text := if alternative && base = 8 && text.head? != some '0' then '0' :: text else text
  padNumber directive directive.precision.isNone start text

/-- A floating-point number. -/
def floating (directive : Directive) (value : Floating) : Text :=
  let text := value.render directive.conversion.toLower directive.precision
    (directive.flags.contains '#')
  let sign := signOf directive value.isNegative
  match text with
  | '0' :: 'x' :: rest => padNumber directive true (sign ++ "0x".toList) rest
  | _ => padNumber directive value.isFinite sign text

/-- Write one argument as a directive says, if the conversion is known: the text, the complaints
and whether the output ends there. -/
def convert (directive : Directive) (argument : Text) : Option (Text × List Complaint × Bool) :=
  let cut (s : Text) : Text := match directive.precision with
    | some n => s.take n
    | none => s
  let ofNumber (isSigned : Bool) (write : Int → Text) : Option (Text × List Complaint × Bool) :=
    let (n, complaints) := numberArgument isSigned argument
    some (write n, complaints, false)
  let conversion := directive.conversion
  if conversion = 's' then some (pad directive (cut argument), [], false)
  else if conversion = 'b' then
    let (text, stopped) := unescaped argument
    some (pad directive (cut text), [], stopped)
  else if conversion = 'c' then some (pad directive [argument.headD '\x00'], [], false)
  else if conversion = 'd' || conversion = 'i' then ofNumber true (signed directive)
  else if conversion = 'u' then ofNumber false (unsigned directive 10)
  else if conversion = 'o' then ofNumber false (unsigned directive 8)
  else if conversion = 'x' then ofNumber false (unsigned directive 16)
  else if conversion = 'X' then
    ofNumber false fun n => (unsigned directive 16 n).map Char.toUpper
  else if ['a', 'e', 'f', 'g'].contains conversion.toLower then
    let (value, complaints) := match Floating.read? argument with
      | some reading =>
          (reading.value, complaintsOf argument reading.rest true reading.outOfRange)
      | none => (.finite false 0 0, complaintsOf argument argument false false)
    let text := floating directive value
    some (if conversion.isUpper then text.map Char.toUpper else text, complaints, false)
  else none

/-- A count of a directive: a number, and whether it was negative. -/
structure Count where
  value : Nat
  negative : Bool
  complaints : List Complaint
  arguments : List Text
  used : Bool

/-- The count that the next argument gives. -/
def countArgument (arguments : List Text) : Count :=
  match arguments with
  | [] => ⟨0, false, [], [], false⟩
  | first :: rest =>
      let (n, complaints) := numberArgument true first
      let n := (Int32.ofInt n).toInt
      ⟨n.natAbs, n < 0, complaints, rest, true⟩

/-- Put text in front of an output. -/
def Output.after (output : Output) (text : Text) (complaints : List Complaint)
    (used : Bool) : Output :=
  { output with
    text := text ++ output.text
    complaints := complaints ++ output.complaints
    used := used || output.used }

/-- Read a width or a precision: digits, or a star for the next argument. -/
def readCount (s : Text) (arguments : List Text) : Option Count × Text × List Text :=
  match s with
  | '*' :: rest =>
      let count := countArgument arguments
      (some count, rest, count.arguments)
  | _ =>
      match Integer.splitDigits 10 s with
      | ([], _) => (none, s, arguments)
      | (found, rest) =>
          (some ⟨min (Numeral.value found) Numeral.maxWord31, false, [], arguments, false⟩, rest,
            arguments)

/-- Go through a format once. -/
def pass : Nat → Text → List Text → Output
  | 0, _, arguments => ⟨[], [], none, arguments, false, true⟩
  | _, [], arguments => ⟨[], [], none, arguments, false, false⟩
  | fuel + 1, '\\' :: rest, arguments =>
      let (c, rest) := readEscape rest
      (pass fuel rest arguments).after [c] [] false
  | fuel + 1, '%' :: '%' :: rest, arguments => (pass fuel rest arguments).after ['%'] [] false
  | fuel + 1, '%' :: rest, arguments =>
      let flags := rest.takeWhile fun c => ['#', '-', '+', ' ', '0'].contains c
      let (width?, body, arguments) := readCount (rest.drop flags.length) arguments
      let (precision?, body, arguments) : Option (Option Count) × Text × List Text :=
        match body with
        | '.' :: body =>
            let (count?, body, arguments) := readCount body arguments
            (some count?, body, arguments)
        | body => (none, body, arguments)
      let width := width?.getD ⟨0, false, [], [], false⟩
      let precision : Option Nat := match precision? with
        | some (some count) => if count.negative then none else some count.value
        | some none => some 0
        | none => none
      let early := width.complaints ++ ((precision?.join).map Count.complaints).getD []
      let flags := if width.negative then '-' :: flags else flags
      let directive : Directive := ⟨flags, width.value, precision, body.headD '\x00'⟩
      match convert directive (arguments.headD []) with
      | none =>
          let fault : Fault :=
            if body.isEmpty then .unfinished
            else .invalid ('%' :: rest.take (rest.length - body.length + 1))
          ⟨[], early, some fault, [], false, true⟩
      | some (text, complaints, stopped) =>
          if stopped then ⟨text, early ++ complaints, none, [], true, true⟩
          else
            let used := width.used || ((precision?.join).map Count.used).getD false ||
              !arguments.isEmpty
            (pass fuel body.tail arguments.tail).after text (early ++ complaints) used
  | fuel + 1, c :: rest, arguments => (pass fuel rest arguments).after [c] [] false

/-- Use a format until the arguments are used up. -/
def format (pattern : Text) : Nat → List Text → Output
  | 0, arguments => ⟨[], [], none, arguments, false, true⟩
  | fuel + 1, arguments =>
      let output := pass (pattern.length + 1) pattern arguments
      if output.stopped || !output.used || output.arguments.isEmpty then output
      else (format pattern fuel output.arguments).after output.text output.complaints true

end Reroute.Shell.Format

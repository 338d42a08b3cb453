import Reroute.Text.Numeral

/-!
JSON texts.  A number keeps the literal it was written with, and an object its members in
their order, repeated names included: what is legal there is for the reader of the value to
say.  Nothing may follow a value but blanks.
-/
namespace Reroute.Json

/-- A value. -/
inductive Value where
  | null
  | bool (value : Bool)
  | number (literal : Text)
  | string (value : Text)
  | array (elements : List Value)
  | object (members : List (Text × Value))

/-! ### Strings -/

/-- A piece of a string: a character, or a UTF-16 unit from an escape. -/
inductive Piece where
  | char (c : Char)
  | unit (n : Nat)
deriving Repr, DecidableEq

/-- The character of an escape of one letter. -/
def escaped? : Char → Option Char
  | '"' => some '"'
  | '\\' => some '\\'
  | '/' => some '/'
  | 'b' => some '\x08'
  | 'f' => some '\x0c'
  | 'n' => some '\n'
  | 'r' => some '\r'
  | 't' => some '\t'
  | _ => none

/-- Read the pieces of a string up to its closing quote.  Controls have to be escaped. -/
def readPieces : Text → Option (List Piece × Text)
  | [] => none
  | '"' :: rest => some ([], rest)
  | '\\' :: 'u' :: a :: b :: c :: d :: rest => do
      let unit ← Hex.value? [a, b, c, d]
      let (pieces, rest) ← readPieces rest
      pure (.unit unit :: pieces, rest)
  | '\\' :: c :: rest => do
      let value ← escaped? c
      let (pieces, rest) ← readPieces rest
      pure (.char value :: pieces, rest)
  | c :: rest =>
      if c.toNat < 0x20 || c = '\\' then none
      else do
        let (pieces, rest) ← readPieces rest
        pure (.char c :: pieces, rest)

/-- The character of a unit that is no surrogate. -/
def ofUnit? (n : Nat) : Option Char :=
  if h : n.isValidChar then some (Char.ofNatAux n h) else none

/-- The character of a pair of surrogates. -/
def ofPair? (high low : Nat) : Option Char :=
  if 0xD800 ≤ high ∧ high < 0xDC00 ∧ 0xDC00 ≤ low ∧ low < 0xE000 then
    ofUnit? (0x10000 + (high - 0xD800) * 0x400 + (low - 0xDC00))
  else none

/-- Put pieces together.  A surrogate has to be half of a pair. -/
def joinPieces : List Piece → Option Text
  | [] => some []
  | .unit high :: .unit low :: rest =>
      match ofPair? high low with
      | some c => (joinPieces rest).map fun s => c :: s
      | none => do
          let c ← ofUnit? high
          let s ← joinPieces (.unit low :: rest)
          pure (c :: s)
  | .unit n :: rest => do
      let c ← ofUnit? n
      let s ← joinPieces rest
      pure (c :: s)
  | .char c :: rest => (joinPieces rest).map fun s => c :: s

/-- Read a string behind its opening quote. -/
def readString (s : Text) : Option (Text × Text) := do
  let (pieces, rest) ← readPieces s
  let value ← joinPieces pieces
  pure (value, rest)

/-! ### Numbers -/

/-- Read a non-empty run of digits. -/
def readDigits (s : Text) : Option (Text × Text) :=
  match s.takeWhile Char.isDigit with
  | [] => none
  | digits => some (digits, s.dropWhile Char.isDigit)

/-- Read the whole part of a number: a single zero, or digits that begin with another. -/
def readWhole : Text → Option (Text × Text)
  | '0' :: rest => some (['0'], rest)
  | s => readDigits s

/-- Read the fraction of a number, if there is one. -/
def readFraction : Text → Option (Text × Text)
  | '.' :: rest => do
      let (digits, rest) ← readDigits rest
      pure ('.' :: digits, rest)
  | s => some ([], s)

/-- Read the sign of an exponent, if there is one. -/
def readSign : Text → Text × Text
  | '+' :: rest => (['+'], rest)
  | '-' :: rest => (['-'], rest)
  | s => ([], s)

/-- Read the exponent of a number, if there is one. -/
def readExponent : Text → Option (Text × Text)
  | [] => some ([], [])
  | c :: rest =>
      if c = 'e' ∨ c = 'E' then do
        let (sign, rest) := readSign rest
        let (digits, rest) ← readDigits rest
        pure (c :: sign ++ digits, rest)
      else some ([], c :: rest)

/-- Read a number behind its sign. -/
def readMagnitude (s : Text) : Option (Text × Text) := do
  let (whole, rest) ← readWhole s
  let (fraction, rest) ← readFraction rest
  let (exponent, rest) ← readExponent rest
  pure (whole ++ fraction ++ exponent, rest)

/-- Read a number. -/
def readNumber : Text → Option (Text × Text)
  | '-' :: rest => (readMagnitude rest).map fun (literal, rest) => ('-' :: literal, rest)
  | s => readMagnitude s

/-! ### Values -/

/-- The blanks between tokens. -/
def isBlank (c : Char) : Bool :=
  c == ' ' || c == '\t' || c == '\n' || c == '\r'

/-- Skip blanks. -/
def skip (s : Text) : Text := s.dropWhile isBlank

/-- Read the name of a member and the colon behind it. -/
def readName (s : Text) : Option (Text × Text) :=
  match skip s with
  | '"' :: rest => do
      let (name, rest) ← readString rest
      match skip rest with
      | ':' :: rest => pure (name, rest)
      | _ => none
  | _ => none

mutual

/-- Read a value.  Every value uses up a character, which is what the fuel counts. -/
def readValue : Nat → Text → Option (Value × Text)
  | 0, _ => none
  | fuel + 1, s =>
      match skip s with
      | 'n' :: 'u' :: 'l' :: 'l' :: rest => some (.null, rest)
      | 't' :: 'r' :: 'u' :: 'e' :: rest => some (.bool true, rest)
      | 'f' :: 'a' :: 'l' :: 's' :: 'e' :: rest => some (.bool false, rest)
      | '"' :: rest => (readString rest).map fun (value, rest) => (.string value, rest)
      | '[' :: rest =>
          match skip rest with
          | ']' :: rest => some (.array [], rest)
          | rest => (readElements fuel rest).map fun (elements, rest) => (.array elements, rest)
      | '\x7b' :: rest =>
          match skip rest with
          | '\x7d' :: rest => some (.object [], rest)
          | rest => (readMembers fuel rest).map fun (members, rest) => (.object members, rest)
      | rest => (readNumber rest).map fun (literal, rest) => (.number literal, rest)

/-- Read the elements of an array that is not empty. -/
def readElements : Nat → Text → Option (List Value × Text)
  | 0, _ => none
  | fuel + 1, s => do
      let (element, rest) ← readValue fuel s
      match skip rest with
      | ',' :: rest => do
          let (elements, rest) ← readElements fuel rest
          pure (element :: elements, rest)
      | ']' :: rest => pure ([element], rest)
      | _ => none

/-- Read the members of an object that is not empty. -/
def readMembers : Nat → Text → Option (List (Text × Value) × Text)
  | 0, _ => none
  | fuel + 1, s => do
      let (name, rest) ← readName s
      let (value, rest) ← readValue fuel rest
      match skip rest with
      | ',' :: rest => do
          let (members, rest) ← readMembers fuel rest
          pure ((name, value) :: members, rest)
      | '\x7d' :: rest => pure ([(name, value)], rest)
      | _ => none

end

/-- Read a text that holds one value. -/
def parse? (s : Text) : Option Value := do
  let (value, rest) ← readValue (s.length + 2) s
  if (skip rest).isEmpty then some value else none

end Reroute.Json

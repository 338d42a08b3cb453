import Reroute.Text.Numeral

/-!
Spans of time, written as sums of numbers with units: `1h30m`, `2 weeks`, `1.5s`.  A number
may have a fraction, as long as it comes to whole nanoseconds, or to whole seconds for units
from the hour up, and blanks may stand inside a number and between the terms.  Nothing is
read that does not fit 64 bits of seconds.
-/
namespace Reroute

/-- A span of time in whole seconds and the nanoseconds beyond them. -/
structure Duration where
  seconds : Nat
  nanoseconds : Nat
deriving Repr, DecidableEq

namespace Duration

/-- The nanoseconds of a second. -/
def perSecond : Nat := 1000000000

/-- No time at all. -/
def zero : Duration := ⟨0, 0⟩

/-- Whether a span is no time at all. -/
def isZero (d : Duration) : Bool := d == zero

/-- A span of seconds. -/
def ofSeconds (n : Nat) : Duration := ⟨n, 0⟩

/-- A unit of time: how many of its parts make a second, or how many seconds make it. -/
inductive Scale where
  | fraction (parts : Nat)
  | multiple (seconds : Nat)
deriving Repr, DecidableEq

/-- The names of the units.  A month is a twelfth of a year of 365.25 days, rounded to 30.44
days. -/
def units : List (List String × Scale) := [
  (["nanos", "nsec", "ns"], .fraction 1000000000),
  (["usec", "us", "µs"], .fraction 1000000),
  (["millis", "msec", "ms"], .fraction 1000),
  (["seconds", "second", "secs", "sec", "s"], .multiple 1),
  (["minutes", "minute", "min", "mins", "m"], .multiple 60),
  (["hours", "hour", "hr", "hrs", "h"], .multiple 3600),
  (["days", "day", "d"], .multiple 86400),
  (["weeks", "week", "wks", "wk", "w"], .multiple 604800),
  (["months", "month", "M"], .multiple 2630016),
  (["years", "year", "yrs", "yr", "y"], .multiple 31557600)]

/-- The scale of a unit's name. -/
def scale? (name : Text) : Option Scale :=
  (units.find? fun unit => unit.1.contains (String.ofList name)).map Prod.snd

/-- A number that fits 64 bits. -/
def bounded (n : Nat) : Option Nat :=
  if n ≤ Numeral.maxWord64 then some n else none

/-- Add whole seconds and nanoseconds to a span. -/
def add? (d : Duration) (seconds nanoseconds : Nat) : Option Duration := do
  let nanoseconds ← bounded (d.nanoseconds + nanoseconds)
  let total ← bounded (d.seconds + seconds + nanoseconds / perSecond)
  pure ⟨total, nanoseconds % perSecond⟩

/-- A number with a fraction: its whole part, and the digits behind the point as a quotient. -/
structure Amount where
  whole : Nat
  fraction : Option (Nat × Nat)
deriving Repr, DecidableEq

/-- A quotient without a remainder. -/
def exactly? (n m : Nat) : Option Nat := do
  let n ← bounded n
  if n % m = 0 then some (n / m) else none

/-- Add an amount of a unit to a span.  The fraction of a minute or of a smaller unit is
counted in nanoseconds, which have no fraction themselves, and that of a greater unit in
seconds. -/
def addAmount? (d : Duration) (amount : Amount) (scale : Scale) : Option Duration := do
  let whole ← match scale with
    | .fraction parts => do d.add? 0 (← bounded (amount.whole * (perSecond / parts)))
    | .multiple seconds => do d.add? (← bounded (amount.whole * seconds)) 0
  match amount.fraction, scale with
  | none, _ => pure whole
  | some (n, m), .fraction parts =>
      if parts = perSecond then none
      else do whole.add? 0 (← exactly? (n * (perSecond / parts)) m)
  | some (n, m), .multiple seconds =>
      if seconds ≤ 60 then do whole.add? 0 (← exactly? (n * (seconds * perSecond)) m)
      else do whole.add? (← exactly? (n * seconds) m) 0

/-- The letters that names of units are made of. -/
def isUnitChar (c : Char) : Bool :=
  c.isAlpha || c == 'µ'

/-- Read the digits of a number, skipping blanks, on top of a value and a count of places.
Every digit read multiplies the places by ten. -/
def readDigits (value places : Nat) : Text → Option (Nat × Nat × Text)
  | [] => some (value, places, [])
  | c :: rest =>
      if c.isDigit then do
        let value ← bounded (10 * value + (c.toNat - '0'.toNat))
        readDigits value (10 * places) rest
      else if Text.isBlank c then readDigits value places rest
      else some (value, places, c :: rest)

/-- Read a number that begins with a digit, and the point and fraction behind it. -/
def readAmount (s : Text) : Option (Amount × Text) := do
  let (whole, _, rest) ← readDigits 0 1 s
  match rest with
  | '.' :: rest => do
      let (n, places, rest) ← readDigits 0 1 rest
      if places = 1 then none
      else do
        let places ← bounded places
        pure (⟨whole, some (n, places)⟩, rest)
  | _ => pure (⟨whole, none⟩, rest)

/-- Read the terms of a sum, each a number and a unit.  Every term uses up a digit, which is
what the fuel counts. -/
def readTerms (sum : Duration) : Nat → Text → Option Duration
  | 0, _ => none
  | fuel + 1, s =>
      match s.dropWhile Text.isBlank with
      | [] => some sum
      | c :: rest =>
          if c.isDigit then do
            let (amount, rest) ← readAmount (c :: rest)
            let scale ← scale? (rest.takeWhile isUnitChar)
            let sum ← sum.addAmount? amount scale
            match rest.dropWhile isUnitChar with
            | [] => pure sum
            | d :: rest =>
                if d.isDigit || Text.isBlank d then readTerms sum fuel (d :: rest) else none
          else none

/-- Read a span: a sum of at least one term, or a bare zero. -/
def parse? (s : Text) : Option Duration :=
  if s = ['0'] then some zero
  else if s.all Text.isBlank then none
  else readTerms zero (s.length + 1) s

end Duration

end Reroute

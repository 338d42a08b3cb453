import Reroute.Text.Numeral
import Reroute.Yaml.Node

/-!
What scalars stand for.  A plain scalar without a tag may be a null or a number; a scalar in
quotes is a text.  Tags of the form `!!name` say what a scalar is to be, and every scalar is
a text where a text is asked for.
-/
namespace Reroute.Yaml.Scalar

/-- The name of a tag of the language itself. -/
def coreTag? (scalar : Scalar) : Option Text :=
  match scalar.tag with
  | some (['!', '!'], name) => some name
  | _ => none

/-- The spellings of a null. -/
def isNullText (s : Text) : Bool := s == ['~'] || s == "null".toList

/-- Whether a scalar is a null.  There is no answer for one that claims to be and is not. -/
def isNull? (scalar : Scalar) : Option Bool :=
  if !scalar.plain then some false
  else if scalar.coreTag? = some "null".toList then
    if isNullText scalar.text then some true else none
  else some (scalar.tag.isNone && isNullText scalar.text)

/-- Whether a run of digits begins with a zero in vain: it counts as a text. -/
def isPadded (digits : Text) : Bool :=
  1 < digits.length && digits.head? == some '0' && digits.all Char.isDigit

/-- Read digits of a base of at most 16. -/
def readBase? (base : Nat) (digits : Text) : Option Nat :=
  let digit? (c : Char) : Option Nat :=
    (Hex.digitValue? c).filter fun value => value < base
  if digits.isEmpty then none
  else digits.foldlM (fun total c => (digit? c).map fun value => base * total + value) 0

/-- Read digits with an optional plus sign. -/
def readSigned? (base : Nat) : Text → Option Nat
  | '+' :: digits => readBase? base digits
  | digits => readBase? base digits

/-- Read a number without a sign: in decimal, or behind `0x`, `0o` and `0b` in the base of
that mark, where a plus sign may stand between the mark and the digits. -/
def readMagnitude? : Text → Option Nat
  | '0' :: 'x' :: digits => readSigned? 16 digits
  | '0' :: 'o' :: digits => readSigned? 8 digits
  | '0' :: 'b' :: digits => readSigned? 2 digits
  | digits => if isPadded digits then none else readBase? 10 digits

/-- Read a number with an optional sign that is not negative. -/
def readNatural? : Text → Option Nat
  | '+' :: digits => readMagnitude? digits
  | '-' :: digits => (readMagnitude? digits).filter fun n => n == 0
  | digits => readMagnitude? digits

/-- Read decimal digits with an optional sign, of a number that is not negative.  Leading
zeros do not count. -/
def readDecimal? : Text → Option Nat
  | '+' :: digits => readBase? 10 digits
  | '-' :: digits => (readBase? 10 digits).filter fun n => n == 0
  | digits => readBase? 10 digits

/-- The number of at most `bound` that a scalar stands for. -/
def natural? (bound : Nat) (scalar : Scalar) : Option Nat :=
  let n? :=
    if scalar.coreTag? = some "int".toList then readDecimal? scalar.text
    else if scalar.plain && scalar.tag.isNone then readNatural? scalar.text
    else none
  n?.filter fun n => n ≤ bound

end Reroute.Yaml.Scalar

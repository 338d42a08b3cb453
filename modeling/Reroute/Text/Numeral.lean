import Reroute.Text.Basic

/-!
Digits and the numerals made of them.  The decimal digits of all scripts are the characters of
the general category Decimal_Number; they come in runs of ten with the values 0 to 9.  Decimal
numerals have ASCII digits alone: a bounded reading takes an optional plus sign, any number of
leading zeros, and refuses what exceeds its bound.  Hexadecimal digits are read in either case,
and bytes are written with two of them.
-/
namespace Reroute

namespace Text

/-- The zeros that the runs of ten decimal digits begin with. -/
def decimalZeros : List Nat := [
  0x30, 0x660, 0x6F0, 0x7C0, 0x966, 0x9E6, 0xA66, 0xAE6, 0xB66, 0xBE6, 0xC66, 0xCE6, 0xD66, 0xDE6,
  0xE50, 0xED0, 0xF20, 0x1040, 0x1090, 0x17E0, 0x1810, 0x1946, 0x19D0, 0x1A80, 0x1A90, 0x1B50,
  0x1BB0, 0x1C40, 0x1C50, 0xA620, 0xA8D0, 0xA900, 0xA9D0, 0xA9F0, 0xAA50, 0xABF0, 0xFF10, 0x104A0,
  0x10D30, 0x10D40, 0x11066, 0x110F0, 0x11136, 0x111D0, 0x112F0, 0x11450, 0x114D0, 0x11650, 0x116C0,
  0x116D0, 0x116DA, 0x11730, 0x118E0, 0x11950, 0x11BF0, 0x11C50, 0x11D50, 0x11DA0, 0x11F50, 0x16130,
  0x16A60, 0x16AC0, 0x16B50, 0x16D70, 0x1CCF0, 0x1D7CE, 0x1D7D8, 0x1D7E2, 0x1D7EC, 0x1D7F6, 0x1E140,
  0x1E2F0, 0x1E4F0, 0x1E5F1, 0x1E950, 0x1FBF0]

/-- Whether a character is a decimal digit of some script. -/
def isDecimalDigit (c : Char) : Bool :=
  decimalZeros.any fun first => first ≤ c.toNat && c.toNat ≤ first + 9

end Text

namespace Numeral

/-- The value of a list of ASCII digits, most significant first. -/
def value (digits : Text) : Nat :=
  digits.foldl (fun total d => 10 * total + (d.toNat - '0'.toNat)) 0

/-- Read a non-empty list of ASCII digits whose value is at most `bound`. -/
def digits? (bound : Nat) (s : Text) : Option Nat :=
  if s.isEmpty || !s.all Char.isDigit || bound < value s then none else some (value s)

/-- Read digits with an optional plus sign, of value at most `bound`. -/
def read? (bound : Nat) : Text → Option Nat
  | '+' :: rest => digits? bound rest
  | s => digits? bound s

/-- The digits of a number, without leading zeros. -/
def render (n : Nat) : Text :=
  Nat.toDigits 10 n

/-- The greatest number of 16 bits: ports and status codes. -/
def maxWord16 : Nat := 0xFFFF

/-- The greatest number of 31 bits: statuses and depths of a shell. -/
def maxWord31 : Nat := 0x7FFFFFFF

/-- The greatest number of 64 bits: delays, group numbers and seconds. -/
def maxWord64 : Nat := 0xFFFFFFFFFFFFFFFF

end Numeral

namespace Hex

/-- The value of a hexadecimal digit of either case. -/
def digitValue? (c : Char) : Option Nat :=
  if '0' ≤ c ∧ c ≤ '9' then some (c.toNat - '0'.toNat)
  else if 'a' ≤ c ∧ c ≤ 'f' then some (c.toNat - 'a'.toNat + 10)
  else if 'A' ≤ c ∧ c ≤ 'F' then some (c.toNat - 'A'.toNat + 10)
  else none

/-- The upper-case digit of a value below sixteen. -/
def upperDigit (n : Nat) : Char :=
  if n < 10 then Char.ofNat ('0'.toNat + n) else Char.ofNat ('A'.toNat + (n - 10))

/-- The value of a non-empty list of digits. -/
def value? (digits : Text) : Option Nat :=
  if digits.isEmpty then none
  else digits.foldlM (fun total d => (digitValue? d).map fun v => 16 * total + v) 0

/-- A byte as two upper-case digits. -/
def ofByte (b : UInt8) : Text :=
  [upperDigit (b.toNat / 16), upperDigit (b.toNat % 16)]

end Hex

end Reroute

import Reroute.Shell.Integer

/-!
Floating-point numbers of 64 bits as exact fractions, and their texts.  A number is read to
the nearest one of the format, of two equally near to the even one, and is written rounded in
the same way from its exact value.
-/
namespace Reroute.Shell

/-- A number of the format: a sign, and a value of the form `mantissa * 2 ^ exponent`. -/
inductive Floating where
  | finite (negative : Bool) (mantissa : Nat) (exponent : Int)
  | infinite (negative : Bool)
  | undefined (negative : Bool)
deriving Repr, DecidableEq

namespace Floating

/-- Divide and round to the nearest number, of two equally near to the even one. -/
def roundedQuotient (n d : Nat) : Nat :=
  let q := n / d
  let r := n % d
  if 2 * r < d || (2 * r == d && q % 2 == 0) then q else q + 1

/-- Multiply a fraction by a power of a base. -/
def scale (base : Nat) (n d : Nat) (power : Int) : Nat × Nat :=
  if 0 ≤ power then (n * Nat.pow base power.toNat, d) else (n, d * Nat.pow base (-power).toNat)

/-- The smallest exponent of the format. -/
def leastExponent : Int := -1074

/-- The exponent that a fraction has in a format of 53 bits. -/
def exponentOf (n d : Nat) : Int :=
  let guess : Int := (n.log2 : Int) - (d.log2 : Int) - 52
  let (a, b) := scale 2 n d (-guess)
  let exponent := if a / b < Nat.pow 2 52 then guess - 1 else guess
  max exponent leastExponent

/-- The number nearest to a fraction, and whether the fraction is out of the range of the
format. -/
def ofFraction (negative : Bool) (n d : Nat) : Floating × Bool :=
  if n = 0 then (.finite negative 0 0, false)
  else
    let exponent := exponentOf n d
    let (a, b) := scale 2 n d (-exponent)
    let mantissa := roundedQuotient a b
    let (mantissa, exponent) :=
      if mantissa = Nat.pow 2 53 then (Nat.pow 2 52, exponent + 1) else (mantissa, exponent)
    if 971 < exponent then (.infinite negative, true)
    else (.finite negative mantissa exponent, mantissa < Nat.pow 2 52 && a % b != 0)

/-- A number that was read: whether it was out of range, and what follows it. -/
structure Reading where
  value : Floating
  outOfRange : Bool
  rest : Text

/-- Read digits of a base with a point among them: the digits, and the number of those behind
the point. -/
def readDigits (base : Nat) (s : Text) : Text × Nat × Text :=
  let (whole, rest) := Integer.splitDigits base s
  match rest with
  | '.' :: rest' =>
      let (part, after) := Integer.splitDigits base rest'
      if whole.isEmpty && part.isEmpty then ([], 0, s) else (whole ++ part, part.length, after)
  | _ => (whole, 0, rest)

/-- Read an exponent behind one of two letters.  There may be none. -/
def readExponent (small large : Char) (s : Text) : Int × Text :=
  match s with
  | c :: rest =>
      if c != small && c != large then (0, s)
      else
        let (negative, body) := match rest with
          | '-' :: rest => (true, rest)
          | '+' :: rest => (false, rest)
          | rest => (false, rest)
        match Integer.splitDigits 10 body with
        | ([], _) => (0, s)
        | (digits, after) =>
            let n := min (Numeral.value digits) 100000
            (if negative then -(n : Int) else n, after)
  | [] => (0, [])

/-- The text behind a word of any case. -/
def afterWord? (word : Text) (s : Text) : Option Text :=
  if Text.lowerAscii (s.take word.length) == word then some (s.drop word.length) else none

/-- What follows a word for what is no number: perhaps letters in parentheses. -/
def afterUndefined (s : Text) : Text :=
  match s with
  | '(' :: rest =>
      match rest.dropWhile isNameChar with
      | ')' :: after => after
      | _ => s
  | _ => s

/-- Read a number behind its sign. -/
def readUnsigned? (negative : Bool) (s : Text) : Option Reading :=
  match afterWord? "infinity".toList s, afterWord? "inf".toList s, afterWord? "nan".toList s with
  | some rest, _, _ => some ⟨.infinite negative, false, rest⟩
  | _, some rest, _ => some ⟨.infinite negative, false, rest⟩
  | _, _, some rest => some ⟨.undefined negative, false, afterUndefined rest⟩
  | _, _, _ =>
      let hexadecimal : Option (Text × Nat × Text) := match s with
        | '0' :: x :: rest =>
            if x != 'x' && x != 'X' then none
            else
              let (digits, places, rest) := readDigits 16 rest
              if digits.isEmpty then none else some (digits, places, rest)
        | _ => none
      match hexadecimal with
      | some (digits, places, rest) =>
          let (power, rest) := readExponent 'p' 'P' rest
          let (n, d) := scale 2 (Integer.valueOf 16 digits) 1 (power - 4 * places)
          let (value, out) := ofFraction negative n d
          some ⟨value, out, rest⟩
      | none =>
          let (digits, places, rest) := readDigits 10 s
          if digits.isEmpty then none
          else
            let (power, rest) := readExponent 'e' 'E' rest
            let (n, d) := scale 10 (Numeral.value digits) 1 (power - places)
            let (value, out) := ofFraction negative n d
            some ⟨value, out, rest⟩

/-- Read a number behind blanks and a sign. -/
def read? (s : Text) : Option Reading :=
  match s.dropWhile isSpacing with
  | '-' :: rest => readUnsigned? true rest
  | '+' :: rest => readUnsigned? false rest
  | rest => readUnsigned? false rest

/-- Whether a number is negative. -/
def isNegative : Floating → Bool
  | .finite negative .. => negative
  | .infinite negative => negative
  | .undefined negative => negative

/-- The fraction that a number is, less its sign. -/
def fraction (mantissa : Nat) (exponent : Int) : Nat × Nat := scale 2 mantissa 1 exponent

/-- Put a point in front of the last digits.  A point that nothing follows is left out, unless
it is asked for. -/
def withPoint (digits : Text) (places : Nat) (point : Bool) : Text :=
  let digits := List.replicate (places + 1 - digits.length) '0' ++ digits
  let whole := digits.take (digits.length - places)
  whole ++ (if places != 0 || point then ['.'] else []) ++ digits.drop (digits.length - places)

/-- The text of a fraction with a number of places. -/
def fixed (n d places : Nat) (point : Bool) : Text :=
  withPoint (Numeral.render (roundedQuotient (n * Nat.pow 10 places) d)) places point

/-- The decimal exponent of a fraction and its first digits, rounded. -/
def leadingDigits (n d digits : Nat) : Int × Text :=
  if n = 0 then (0, List.replicate digits '0')
  else
    let guess : Int := ((Numeral.render n).length : Int) - ((Numeral.render d).length : Int)
    let (a, b) := scale 10 n d (-guess)
    let power := if a < b then guess - 1 else guess
    let (a, b) := scale 10 n d ((digits : Int) - 1 - power)
    let text := Numeral.render (roundedQuotient a b)
    if digits < text.length then (power + 1, text.take digits) else (power, text)

/-- An exponent behind its letter, with a sign and two digits at least. -/
def exponentText (letter : Char) (leastDigits : Nat) (power : Int) : Text :=
  let digits := Numeral.render power.natAbs
  letter :: (if power < 0 then '-' else '+') ::
    (List.replicate (leastDigits - digits.length) '0' ++ digits)

/-- The text of a fraction with one digit in front of the point and an exponent. -/
def scientific (n d places : Nat) (point : Bool) : Text :=
  let (power, digits) := leadingDigits n d (places + 1)
  withPoint digits places point ++ exponentText 'e' 2 power

/-- Drop the zeros behind the point, and the point if nothing else follows it. -/
def dropZeros (s : Text) : Text :=
  if s.contains '.' then
    match s.reverse.dropWhile fun c => c == '0' with
    | '.' :: rest => rest.reverse
    | rest => rest.reverse
  else s

/-- The shorter of the two texts with a number of digits that count. -/
def general (n d digits : Nat) (point : Bool) : Text :=
  let digits := max digits 1
  let (power, leading) := leadingDigits n d digits
  if -4 ≤ power ∧ power < digits then
    let text := fixed n d ((digits : Int) - 1 - power).toNat point
    if point then text else dropZeros text
  else
    let text := withPoint leading (digits - 1) point
    (if point then text else dropZeros text) ++ exponentText 'e' 2 power

/-- The hexadecimal digits of a number. -/
def hexDigits (n : Nat) : Text := Nat.toDigits 16 n

/-- The text of a number in the base sixteen.  Without a number of places there are as many as
are needed. -/
def hexadecimal (mantissa : Nat) (exponent : Int) (places? : Option Nat) (point : Bool) : Text :=
  let (mantissa, power) : Nat × Int :=
    if mantissa = 0 then (0, 0)
    else if mantissa < Nat.pow 2 52 then
      if exponent = leastExponent then (mantissa, -1022)
      else
        let shift := 52 - mantissa.log2
        (mantissa * Nat.pow 2 shift, exponent + 52 - shift)
    else (mantissa, exponent + 52)
  let places := places?.getD 13
  let digits :=
    if places < 13 then roundedQuotient mantissa (Nat.pow 2 (4 * (13 - places)))
    else mantissa * Nat.pow 16 (places - 13)
  let text := withPoint (hexDigits digits) places point
  let text := if places?.isNone && !point then dropZeros text else text
  "0x".toList ++ text ++ exponentText 'p' 1 power

/-- The text of a number, less its sign, as a conversion asks for it: `f`, `e`, `g` or `a`. -/
def render (conversion : Char) (places? : Option Nat) (point : Bool) (value : Floating) : Text :=
  match value with
  | .infinite _ => "inf".toList
  | .undefined _ => "nan".toList
  | .finite _ mantissa exponent =>
      let (n, d) := fraction mantissa exponent
      match conversion with
      | 'f' => fixed n d (places?.getD 6) point
      | 'e' => scientific n d (places?.getD 6) point
      | 'g' => general n d (places?.getD 6) point
      | _ => hexadecimal mantissa exponent places? point

/-- Whether a number is finite. -/
def isFinite : Floating → Bool
  | .finite .. => true
  | _ => false

end Floating

end Reroute.Shell

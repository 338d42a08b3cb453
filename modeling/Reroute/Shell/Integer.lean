import Reroute.Shell.Command
import Reroute.Text.Numeral

/-!
Numbers of 64 bits as scripts write them: blanks, a sign, and digits whose base their
beginning tells.  What is too great for the width is held at its end.
-/
namespace Reroute.Shell.Integer

/-- The greatest number of 64 bits with a sign. -/
def greatest : Nat := 0x7FFFFFFFFFFFFFFF

/-- The value of digits of a base. -/
def valueOf (base : Nat) (digits : Text) : Nat :=
  digits.foldl (fun n c => base * n + (Hex.digitValue? c).getD 0) 0

/-- Whether a character is a digit of a base. -/
def isDigitOf (base : Nat) (c : Char) : Bool :=
  match Hex.digitValue? c with
  | some n => n < base
  | none => false

/-- Split digits of a base off a text. -/
def splitDigits (base : Nat) (s : Text) : Text × Text :=
  (s.takeWhile (isDigitOf base), s.dropWhile (isDigitOf base))

/-- The base that digits are written in and the digits without the mark of the base: `0x`
and `0b` in front of a digit, or a zero for the base eight. -/
def base (s : Text) : Nat × Text :=
  match s with
  | '0' :: x :: d :: rest =>
      if (x == 'x' || x == 'X') && isDigitOf 16 d then (16, d :: rest)
      else if (x == 'b' || x == 'B') && isDigitOf 2 d then (2, d :: rest)
      else (8, s)
  | '0' :: _ => (8, s)
  | _ => (10, s)

/-- Read digits without a sign, in the base that they tell. -/
def natural? (s : Text) : Option (Nat × Text) :=
  let (radix, s) := base s
  match splitDigits radix s with
  | ([], _) => none
  | (digits, rest) => some (valueOf radix digits, rest)

/-- A number that was read: its value within the width, whether it was too great, and what
follows it. -/
structure Reading where
  value : Int
  overflow : Bool
  rest : Text

/-- Read a number behind blanks and a sign.  It is decimal, unless it may tell its base. -/
def read? (anyBase : Bool) (s : Text) : Option Reading :=
  let (negative, body) := match s.dropWhile isSpacing with
    | '-' :: rest => (true, rest)
    | '+' :: rest => (false, rest)
    | rest => (false, rest)
  let found? := if anyBase then natural? body else
    match splitDigits 10 body with
    | ([], _) => none
    | (digits, rest) => some (Numeral.value digits, rest)
  found?.map fun (n, rest) =>
    let limit := if negative then greatest + 1 else greatest
    let held := min n limit
    ⟨if negative then -(held : Int) else held, limit < n, rest⟩

/-- The number that a whole text is, with blanks around it.  A text of blanks alone is zero
where the base may vary, and no number otherwise. -/
def whole? (anyBase : Bool) (s : Text) : Option Int :=
  match read? anyBase s with
  | some reading =>
      if reading.overflow || !reading.rest.all isSpacing then none else some reading.value
  | none => if anyBase && s.all isSpacing then some 0 else none

/-- A number that no operation leaves negative or above 31 bits: a status or a count. -/
def count? (s : Text) : Option Nat :=
  (whole? false s).bind fun n =>
    if 0 ≤ n ∧ n ≤ Numeral.maxWord31 then some n.toNat else none

/-- The digits of a number, behind a sign if it is negative. -/
def render (n : Int) : Text :=
  if n < 0 then '-' :: Numeral.render n.natAbs else Numeral.render n.natAbs

end Reroute.Shell.Integer

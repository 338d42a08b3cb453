import Reroute.Text.Numeral

/-!
Base64 with the standard alphabet.  Writing pads to whole groups.  The strict reading takes
letters alone and refuses every other text.  The lenient one hands it a cleaned text: the
URL-safe letters are put into the alphabet, what stands from the first `=` on or outside the
alphabet is left out, and so is a last letter that stands alone in its group.
-/
namespace Reroute.Base64

/-- The letter of a value below 64. -/
def letter (n : Nat) : Char :=
  if n < 26 then Char.ofNat ('A'.toNat + n)
  else if n < 52 then Char.ofNat ('a'.toNat + (n - 26))
  else if n < 62 then Char.ofNat ('0'.toNat + (n - 52))
  else if n = 62 then '+'
  else '/'

/-- The value of a letter. -/
def letterValue? (c : Char) : Option Nat :=
  if 'A' ≤ c ∧ c ≤ 'Z' then some (c.toNat - 'A'.toNat)
  else if 'a' ≤ c ∧ c ≤ 'z' then some (c.toNat - 'a'.toNat + 26)
  else if '0' ≤ c ∧ c ≤ '9' then some (c.toNat - '0'.toNat + 52)
  else if c = '+' then some 62
  else if c = '/' then some 63
  else none

/-- Three bytes make four letters; a shorter last group is padded with `=`. -/
def encode : List UInt8 → Text
  | [] => []
  | [a] => [letter (a.toNat / 4), letter (a.toNat % 4 * 16), '=', '=']
  | [a, b] =>
      [letter (a.toNat / 4), letter (a.toNat % 4 * 16 + b.toNat / 16),
        letter (b.toNat % 16 * 4), '=']
  | a :: b :: c :: rest =>
      letter (a.toNat / 4) :: letter (a.toNat % 4 * 16 + b.toNat / 16) ::
        letter (b.toNat % 16 * 4 + c.toNat / 64) :: letter (c.toNat % 64) :: encode rest

/-! ### The strict reading -/

/-- Why a text is refused. -/
inductive DecodeError where
  | invalidLetter (offset : Nat) (c : Char)
  | danglingLetter
deriving Repr, DecidableEq

/-- The wording of an error. -/
def DecodeError.message : DecodeError → Text
  | .invalidLetter offset c =>
      "Invalid byte ".toList ++ Numeral.render c.toNat ++ ", offset ".toList ++
        Numeral.render offset ++ ['.']
  | .danglingLetter => "Encoded text cannot have a 6-bit remainder.".toList

/-- The values of letters; `offset` is the place of the first. -/
def values (offset : Nat) : Text → Except DecodeError (List Nat)
  | [] => .ok []
  | c :: rest =>
      match letterValue? c with
      | some value => (values (offset + 1) rest).map (value :: ·)
      | none => .error (.invalidLetter offset c)

/-- The bytes of letter values, four at a time.  The bits a short last group has left over
are dropped. -/
def ofValues : List Nat → List UInt8
  | a :: b :: c :: d :: rest =>
      UInt8.ofNat (a * 4 + b / 16) :: UInt8.ofNat (b % 16 * 16 + c / 4) ::
        UInt8.ofNat (c % 4 * 64 + d) :: ofValues rest
  | [a, b, c] => [UInt8.ofNat (a * 4 + b / 16), UInt8.ofNat (b % 16 * 16 + c / 4)]
  | [a, b] => [UInt8.ofNat (a * 4 + b / 16)]
  | _ => []

/-- The bytes of letters without padding.  A last letter alone in its group spells no byte,
and nothing else is looked at then but whether it is one. -/
def decodeLetters (s : Text) : Except DecodeError (List UInt8) :=
  if s.length % 4 = 1 then
    match s.getLast?.filter fun c => (letterValue? c).isNone with
    | some c => .error (.invalidLetter (s.length - 1) c)
    | none => .error .danglingLetter
  else (values 0 s).map ofValues

/-! ### The lenient reading -/

/-- The letter that a character stands for, with `-` for `+` and `_` for `/`. -/
def letter? (c : Char) : Option Char :=
  if c = '-' then some '+'
  else if c = '_' then some '/'
  else if c.isAlphanum || c == '+' || c == '/' then some c
  else none

/-- The letters of a text up to the first `=`. -/
def letters (s : Text) : Text :=
  (s.takeWhile fun c => c != '=').filterMap letter?

/-- The letters of a text without a last one that stands alone in its group. -/
def clean (s : Text) : Text :=
  if (letters s).length % 4 = 1 then (letters s).dropLast else letters s

/-- The lenient reading. -/
def decode (s : Text) : Except DecodeError (List UInt8) :=
  decodeLetters (clean s)

end Reroute.Base64

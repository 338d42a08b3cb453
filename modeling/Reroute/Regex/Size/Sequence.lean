import Reroute.Regex.CharSet

/-!
Sets of characters as sequences of byte ranges.  The UTF-8 bytes of a range of characters
are the products of byte ranges once the range is cut where the number of bytes changes and
where a leading byte does not have all bytes behind it.
-/
namespace Reroute.Regex.Size

/-- An inclusive range of bytes. -/
abbrev ByteRange := Nat × Nat

/-- The ranges that the bytes of some characters lie in, from the first byte on. -/
abbrev ByteSequence := List ByteRange

/-- The greatest code points of one, two and three bytes. -/
def lengthBounds : List Nat := [0x7F, 0x7FF, 0xFFFF]

/-- The bytes of a code point. -/
def bytesOf (n : Nat) : List Nat :=
  if n ≤ 0x7F then [n]
  else if n ≤ 0x7FF then [0xC0 + n / 0x40, 0x80 + n % 0x40]
  else if n ≤ 0xFFFF then [0xE0 + n / 0x1000, 0x80 + n / 0x40 % 0x40, 0x80 + n % 0x40]
  else [0xF0 + n / 0x40000, 0x80 + n / 0x1000 % 0x40, 0x80 + n / 0x40 % 0x40, 0x80 + n % 0x40]

/-- The first place where a range has to be cut so that all its characters have sequences of
one form: the last code point of the front part. -/
def cutPoint? (low high : Nat) : Option Nat :=
  match lengthBounds.find? fun bound => low ≤ bound && bound < high with
  | some bound => some bound
  | none =>
      if high ≤ 0x7F then none
      else [0x40, 0x1000, 0x40000].findSome? fun block =>
        if low / block = high / block then none
        else if low % block ≠ 0 then some (low / block * block + (block - 1))
        else if high % block ≠ block - 1 then some (high / block * block - 1)
        else none

/-- Cut ranges until each is a product of byte ranges. -/
def cutRanges : Nat → List (Nat × Nat) → List ByteSequence
  | 0, _ => []
  | _ + 1, [] => []
  | fuel + 1, (low, high) :: rest =>
      match cutPoint? low high with
      | some cut => cutRanges fuel ((low, cut) :: (cut + 1, high) :: rest)
      | none => (bytesOf low).zip (bytesOf high) :: cutRanges fuel rest

/-- The most parts that one range is cut into: one, three, five and seven for the lengths. -/
def mostParts : Nat := 16

/-- The byte sequences of a set.  A range of several parts is cut once for each but one. -/
def sequences (set : CharSet) : List ByteSequence :=
  cutRanges (2 * mostParts * set.ranges.length + 1) set.ranges

/-- The distinct heads of sequences in order, each with the tails that follow it. -/
def byHead (sequences : List ByteSequence) : List (ByteRange × List ByteSequence) :=
  (sequences.splitBy fun a b => a.head? == b.head?).filterMap fun run =>
    (run.head?.bind List.head?).map fun range => (range, run.map List.tail)

end Reroute.Regex.Size

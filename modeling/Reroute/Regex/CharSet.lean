import Reroute.Text.Numeral

/-!
Sets of characters as sorted lists of inclusive ranges of code points.  Every operation
returns ranges that are in order, apart from each other, and free of surrogates.
-/
namespace Reroute.Regex

/-- A set of characters. -/
structure CharSet where
  ranges : List (Nat × Nat)
deriving Repr, DecidableEq

namespace CharSet

/-- The greatest code point. -/
def maxCode : Nat := 0x10FFFF

/-- The set without characters. -/
def empty : CharSet := ⟨[]⟩

/-- The code points that belong to no character. -/
def surrogates : List (Nat × Nat) := [(0xD800, 0xDFFF)]

/-- Join ranges that overlap or touch; they come sorted by their lower ends. -/
def merge : List (Nat × Nat) → List (Nat × Nat)
  | [] => []
  | [r] => [r]
  | (a, b) :: (c, d) :: rest =>
      if c ≤ b + 1 then merge ((a, max b d) :: rest) else (a, b) :: merge ((c, d) :: rest)
termination_by ranges => ranges.length

/-- The gaps between sorted ranges, from `low` up. -/
def gaps (low : Nat) : List (Nat × Nat) → List (Nat × Nat)
  | [] => if low ≤ maxCode then [(low, maxCode)] else []
  | (a, b) :: rest =>
      if low < a then (low, a - 1) :: gaps (b + 1) rest else gaps (b + 1) rest

/-- Sort and join ranges. -/
def sortRanges (ranges : List (Nat × Nat)) : List (Nat × Nat) :=
  merge (ranges.mergeSort fun r s => r.1 ≤ s.1)

/-- All characters outside some sorted ranges. -/
def outside (ranges : List (Nat × Nat)) : CharSet :=
  ⟨gaps 0 (sortRanges (ranges ++ surrogates))⟩

/-- The characters of some ranges, given in any order. -/
def ofRanges (ranges : List (Nat × Nat)) : CharSet :=
  outside (gaps 0 (sortRanges ranges))

/-- All characters. -/
def all : CharSet := ofRanges [(0, maxCode)]

/-- The set of one character. -/
def singleton (c : Char) : CharSet := ⟨[(c.toNat, c.toNat)]⟩

/-- The characters outside a set. -/
def complement (s : CharSet) : CharSet := outside s.ranges

/-- The characters of either set. -/
def union (s t : CharSet) : CharSet := ofRanges (s.ranges ++ t.ranges)

/-- The characters of both sets. -/
def inter (s t : CharSet) : CharSet := complement (union (complement s) (complement t))

/-- The characters of the first set that are not in the second. -/
def diff (s t : CharSet) : CharSet := inter s (complement t)

/-- The characters of exactly one set. -/
def symmDiff (s t : CharSet) : CharSet := union (diff s t) (diff t s)

/-- The characters of several sets. -/
def unions (sets : List CharSet) : CharSet := ofRanges (sets.flatMap ranges)

/-- Whether a code point lies in one of some sorted ranges. -/
def inRanges (n : Nat) : List (Nat × Nat) → Bool
  | [] => false
  | (a, b) :: rest => if n < a then false else if n ≤ b then true else inRanges n rest

/-- Membership. -/
def contains (s : CharSet) (c : Char) : Bool := inRanges c.toNat s.ranges

/-- Whether a set has no character. -/
def isEmpty (s : CharSet) : Bool := s.ranges.isEmpty

/-- Whether a set has ASCII characters only. -/
def isAscii (s : CharSet) : Bool := s.ranges.all fun r => r.2 < 0x80

/-- The character of a set that has just one. -/
def single? (s : CharSet) : Option Char :=
  match s.ranges with
  | [(a, b)] => if a = b then some (Char.ofNat a) else none
  | _ => none

/-- One word of a table: a hexadecimal number, two with a dash for all code points from one
to the other, or with a slash and a step behind them for those that are steps apart. -/
def rangesOfWord (word : Text) : List (Nat × Nat) :=
  let value (digits : Text) : Nat := (Hex.value? digits).getD 0
  match Text.cut '/' word with
  | some (ends, step) =>
      match Text.cut '-' ends with
      | some (low, high) =>
          (List.range ((value high - value low) / value step + 1)).map fun i =>
            (value low + value step * i, value low + value step * i)
      | none => []
  | none =>
      match Text.cut '-' word with
      | some (low, high) => [(value low, value high)]
      | none => [(value word, value word)]

/-- The set a table writes as words with blanks between them. -/
def ofTable (s : String) : CharSet :=
  ⟨(Text.words s.toList).flatMap rangesOfWord⟩

end CharSet

end Reroute.Regex

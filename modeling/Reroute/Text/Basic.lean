/-!
Text as a list of characters, with the cuts that rules files, headers, queries and
templates are read by.  A blank is a character of the Unicode property White_Space, and
every cut keeps the characters it does not remove in their order.
-/
namespace Reroute

/-- A text is the list of its characters. -/
abbrev Text := List Char

namespace Text

/-- The characters of the Unicode property White_Space. -/
def isBlank (c : Char) : Bool :=
  let n := c.toNat
  (0x9 ≤ n && n ≤ 0xD) || n == 0x20 || n == 0x85 || n == 0xA0 || n == 0x1680 ||
    (0x2000 ≤ n && n ≤ 0x200A) || n == 0x2028 || n == 0x2029 || n == 0x202F ||
    n == 0x205F || n == 0x3000

/-- Drop the blanks a text begins with. -/
def trimStart (s : Text) : Text :=
  s.dropWhile isBlank

/-- Drop the blanks a text ends with. -/
def trimEnd (s : Text) : Text :=
  (s.reverse.dropWhile isBlank).reverse

/-- Drop the blanks at both ends. -/
def trim (s : Text) : Text :=
  trimEnd (trimStart s)

/-- The maximal runs of characters that are no blanks. -/
def words (s : Text) : List Text :=
  (s.splitOnP isBlank).filter fun word => !word.isEmpty

/-- The pieces between line feeds.  A carriage return stays at the end of its piece, where
trimming takes it. -/
def lines (s : Text) : List Text :=
  s.splitOn '\n'

/-- Cut a text at the first occurrence of a character, which belongs to neither half. -/
def cut (mark : Char) : Text → Option (Text × Text)
  | [] => none
  | c :: rest =>
      if c = mark then some ([], rest)
      else (cut mark rest).map fun halves => (c :: halves.1, halves.2)

/-- Cut a text at the first place where `mark` stands, which belongs to neither half. -/
def cutAt (mark : Text) : Text → Option (Text × Text)
  | [] => if mark.isEmpty then some ([], []) else none
  | c :: rest =>
      match mark.isPrefixOf? (c :: rest) with
      | some after => some ([], after)
      | none => (cutAt mark rest).map fun halves => (c :: halves.1, halves.2)

/-- The text after `start`, for a text that begins with it. -/
def after? (start s : Text) : Option Text :=
  start.isPrefixOf? s

/-- The text before `finish`, for a text that ends with it. -/
def before? (finish s : Text) : Option Text :=
  (finish.reverse.isPrefixOf? s.reverse).map List.reverse

/-- The number of bytes of the UTF-8 form. -/
def byteLength (s : Text) : Nat :=
  s.foldr (fun c total => c.utf8Size + total) 0

/-- Drop the characters that fill exactly `count` bytes of the UTF-8 form.  There are none
to drop where the text is too short or the count ends inside a character. -/
def dropBytes? : Nat → Text → Option Text
  | 0, s => some s
  | _ + 1, [] => none
  | count + 1, c :: rest =>
      if c.utf8Size ≤ count + 1 then dropBytes? (count + 1 - c.utf8Size) rest else none

/-- Lower-case the letters `A` to `Z` and leave every other character alone. -/
def lowerAscii (s : Text) : Text :=
  s.map Char.toLower

/-- Equality up to the case of the letters `a` to `z`. -/
def sameIgnoringCase (s t : Text) : Bool :=
  lowerAscii s == lowerAscii t

/-- The order of texts by their characters, the shorter first where one begins the other. -/
def precedes : Text → Text → Bool
  | [], _ => true
  | _ :: _, [] => false
  | c :: s, d :: t => c.toNat < d.toNat || (c == d && precedes s t)

/-- Join texts with a separator between neighbours. -/
def joinWith (separator : Text) (parts : List Text) : Text :=
  List.intercalate separator parts

/-- Replace every occurrence of a character by a text. -/
def replaceChar (c : Char) (value s : Text) : Text :=
  s.flatMap fun d => if d = c then value else [d]

end Text

end Reroute

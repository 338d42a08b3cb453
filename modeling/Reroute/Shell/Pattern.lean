import Reroute.Shell.Command

/-!
Patterns of file names and of texts: `*` for any characters, `?` for one, sets in brackets,
and a backslash in front of what stands for itself.  A bracket that is never closed stands for
itself as well.
-/
namespace Reroute.Shell

/-- What one place of a pattern admits. -/
inductive PatternItem where
  | character (c : Char)
  | any
  | many
  | set (negated : Bool) (members : List (Char → Bool))

namespace Pattern

/-- The classes of characters that a set may name. -/
def classes : List (Text × (Char → Bool)) :=
  let visible (c : Char) : Bool := 0x21 ≤ c.toNat && c.toNat ≤ 0x7E
  [(":alnum:]".toList, Char.isAlphanum), (":alpha:]".toList, Char.isAlpha),
    (":blank:]".toList, fun c => c == ' ' || c == '\t'),
    (":cntrl:]".toList, fun c => c.toNat < 0x20 || c.toNat == 0x7F),
    (":digit:]".toList, Char.isDigit), (":graph:]".toList, visible),
    (":lower:]".toList, fun c => 'a' ≤ c && c ≤ 'z'),
    (":print:]".toList, fun c => c == ' ' || visible c),
    (":punct:]".toList, fun c => visible c && !c.isAlphanum), (":space:]".toList, isSpacing),
    (":upper:]".toList, fun c => 'A' ≤ c && c ≤ 'Z'),
    (":xdigit:]".toList, fun c =>
      c.isDigit || ('a' ≤ c && c ≤ 'f') || ('A' ≤ c && c ≤ 'F'))]

/-- The class that a text begins to name, and what follows it. -/
def class? (s : Text) : Option ((Char → Bool) × Text) :=
  classes.findSome? fun (name, test) => (Text.after? name s).map fun rest => (test, rest)

/-- The place of a byte in a range, which counts bytes as signed. -/
def order (c : Char) : Int :=
  if c.toNat < 0x80 then c.toNat else (c.toNat : Int) - 0x100

/-- The last character of a range, and what follows it, behind the first and a dash. -/
def rangeEnd? : Text → Option (Char × Text)
  | '-' :: ']' :: _ => none
  | '-' :: '\\' :: c :: rest => some (c, rest)
  | '-' :: c :: rest => some (c, rest)
  | _ => none

/-- Read one member of a set: a class, a range or a character. -/
def member? : Text → Option ((Char → Bool) × Text)
  | [] => none
  | c :: rest =>
      let named? := if c = '[' then class? rest else none
      match named? with
      | some found => some found
      | none =>
          let first? := match c, rest with
            | '\\', [] => none
            | '\\', d :: rest => some (d, rest)
            | c, rest => some (c, rest)
          first?.map fun (c, rest) =>
            match rangeEnd? rest with
            | some (last, rest) =>
                (fun d => order c ≤ order d && order d ≤ order last, rest)
            | none => (fun d => d == c, rest)

/-- Read members up to the bracket that closes a set, of which there is one at least.  The
fuel is the length of the text. -/
def members? : Nat → Text → Option (List (Char → Bool) × Text)
  | 0, _ => none
  | fuel + 1, s => do
      let (test, rest) ← member? s
      match rest with
      | ']' :: rest => pure ([test], rest)
      | rest => do
          let (tests, rest) ← members? fuel rest
          pure (test :: tests, rest)

/-- Read the rest of a set behind its opening bracket. -/
def set? (s : Text) : Option (PatternItem × Text) :=
  match s with
  | '!' :: rest => (members? rest.length rest).map fun (tests, rest) => (.set true tests, rest)
  | _ => (members? s.length s).map fun (tests, rest) => (.set false tests, rest)

/-- The places of a pattern.  The fuel is the length of the text. -/
def items : Nat → Text → List PatternItem
  | 0, _ => []
  | _, [] => []
  | fuel + 1, '\\' :: c :: rest => .character c :: items fuel rest
  | fuel + 1, '?' :: rest => .any :: items fuel rest
  | fuel + 1, '*' :: rest => .many :: items fuel rest
  | fuel + 1, '[' :: rest =>
      match set? rest with
      | some (item, rest) => item :: items fuel rest
      | none => .character '[' :: items fuel rest
  | fuel + 1, c :: rest => .character c :: items fuel rest

/-- Read a pattern. -/
def parse (s : Text) : List PatternItem := items s.length s

/-- Whether one place of a pattern admits a character. -/
def admits : PatternItem → Char → Bool
  | .character c, d => c == d
  | .any, _ => true
  | .many, _ => true
  | .set negated members, d => (members.any fun test => test d) != negated

/-- Whether some end of a text passes a test. -/
def anyEnd (test : Text → Bool) : Text → Bool
  | [] => test []
  | c :: s => test (c :: s) || anyEnd test s

/-- Whether a whole text fits a pattern. -/
def fits : List PatternItem → Text → Bool
  | [], s => s.isEmpty
  | .many :: rest, s => anyEnd (fits rest) s
  | item :: rest, c :: s => admits item c && fits rest s
  | _ :: _, [] => false

/-- The numbers of characters at the start of a text that fit a pattern together, the
smallest first. -/
def fittingStarts (pattern : List PatternItem) (s : Text) : List Nat :=
  (List.range (s.length + 1)).filter fun n => fits pattern (s.take n)

/-- The numbers of characters in front of an end that fits a pattern, the smallest first. -/
def fittingEnds (pattern : List PatternItem) (s : Text) : List Nat :=
  (List.range (s.length + 1)).filter fun n => fits pattern (s.drop n)

end Pattern

end Reroute.Shell

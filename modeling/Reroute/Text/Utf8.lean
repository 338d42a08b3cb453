import Reroute.Text.Basic

/-!
The UTF-8 form of a text.  Reading goes through `chunks`, which splits bytes into
characters and ill-formed pieces; each ill-formed piece is as long as some well-formed
sequence starts with it, and at least one byte.  The strict reading refuses such pieces and
the lossy one puts U+FFFD for each.

Where bytes are worked on as characters, every character stands for the byte of its number, so
that lengths and positions count bytes.
-/
namespace Reroute

namespace Utf8

/-- The UTF-8 form of a text. -/
def encode (s : Text) : List UInt8 :=
  s.flatMap String.utf8EncodeChar

/-- The six low bits a continuation byte carries. -/
def payload (b : UInt8) : Nat :=
  b.toNat % 0x40

/-- Continuation bytes are those of the form `10xxxxxx`. -/
def isContinuation (b : UInt8) : Bool :=
  0x80 ≤ b && b ≤ 0xBF

/-- Whether `second` may follow the lead byte of a sequence of three bytes: the forms of
fewer bytes and the surrogates are left out. -/
def mayFollowThree (lead second : UInt8) : Bool :=
  if lead = 0xE0 then 0xA0 ≤ second && second ≤ 0xBF
  else if lead = 0xED then 0x80 ≤ second && second ≤ 0x9F
  else isContinuation second

/-- Whether `second` may follow the lead byte of a sequence of four bytes: the forms of
fewer bytes and the numbers above U+10FFFF are left out. -/
def mayFollowFour (lead second : UInt8) : Bool :=
  if lead = 0xF0 then 0x90 ≤ second && second ≤ 0xBF
  else if lead = 0xF4 then 0x80 ≤ second && second ≤ 0x8F
  else isContinuation second

/-- Split off the first character, or the first ill-formed piece, of which no character
comes. -/
def next (lead : UInt8) (rest : List UInt8) : Option Char × List UInt8 :=
  if lead < 0x80 then (some (Char.ofNat lead.toNat), rest)
  else if 0xC2 ≤ lead && lead ≤ 0xDF then
    match rest with
    | b :: rest' =>
        if isContinuation b then
          (some (Char.ofNat (lead.toNat % 0x20 * 0x40 + payload b)), rest')
        else (none, rest)
    | [] => (none, rest)
  else if 0xE0 ≤ lead && lead ≤ 0xEF then
    match rest with
    | b :: rest' =>
        if mayFollowThree lead b then
          match rest' with
          | c :: rest'' =>
              if isContinuation c then
                (some (Char.ofNat
                  (lead.toNat % 0x10 * 0x1000 + payload b * 0x40 + payload c)), rest'')
              else (none, rest')
          | [] => (none, rest')
        else (none, rest)
    | [] => (none, rest)
  else if 0xF0 ≤ lead && lead ≤ 0xF4 then
    match rest with
    | b :: rest' =>
        if mayFollowFour lead b then
          match rest' with
          | c :: rest'' =>
              if isContinuation c then
                match rest'' with
                | d :: rest''' =>
                    if isContinuation d then
                      (some (Char.ofNat (lead.toNat % 0x8 * 0x40000 + payload b * 0x1000 +
                        payload c * 0x40 + payload d)), rest''')
                    else (none, rest'')
                | [] => (none, rest'')
              else (none, rest')
          | [] => (none, rest')
        else (none, rest)
    | [] => (none, rest)
  else (none, rest)

/-- Splitting off a piece never lengthens what is left. -/
theorem length_next_le (lead : UInt8) (rest : List UInt8) :
    (next lead rest).2.length ≤ rest.length := by
  unfold next
  repeat' split
  all_goals simp only [List.length_cons]
  all_goals omega

/-- The characters and the ill-formed pieces of a byte sequence, in order. -/
def chunks : List UInt8 → List (Option Char)
  | [] => []
  | lead :: rest =>
      (next lead rest).1 :: chunks (next lead rest).2
termination_by bytes => bytes.length
decreasing_by
  have := length_next_le lead rest
  simp only [List.length_cons]
  omega

/-- The text of a byte sequence that is well-formed throughout. -/
def decode? (bytes : List UInt8) : Option Text :=
  (chunks bytes).mapM id

/-- The text of a byte sequence with U+FFFD in place of each ill-formed piece. -/
def decodeLossy (bytes : List UInt8) : Text :=
  (chunks bytes).map fun chunk => chunk.getD '\uFFFD'

end Utf8

namespace Text

/-- The characters that bytes stand as. -/
def ofBytes (bytes : List UInt8) : Text :=
  bytes.map fun b => Char.ofNat b.toNat

/-- The bytes that characters stand for. -/
def toBytes (s : Text) : List UInt8 :=
  s.map fun c => UInt8.ofNat c.toNat

/-- The UTF-8 form of a text, one character for each byte. -/
def encoded (s : Text) : Text :=
  ofBytes (Utf8.encode s)

/-- The character of a byte has the byte's number. -/
theorem toNat_charOfByte (b : UInt8) : (Char.ofNat b.toNat).toNat = b.toNat := by
  have valid : b.toNat.isValidChar := Or.inl (by have := b.toNat_lt; omega)
  unfold Char.ofNat
  rw [dif_pos valid]
  rfl

end Text

end Reroute

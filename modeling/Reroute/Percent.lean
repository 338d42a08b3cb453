import Reroute.Text.Numeral
import Reroute.Text.Utf8

/-!
Percent-encoding.  Writing keeps the bytes of a chosen set and spells each other byte as
`%` and two upper-case digits; reading turns every `%` with two hexadecimal digits behind it
back into its byte and leaves all else alone.
-/
namespace Reroute.Percent

/-- Write bytes, keeping those that `keep` holds of. -/
def encode (keep : UInt8 → Bool) (bytes : List UInt8) : Text :=
  bytes.flatMap fun b => if keep b then [Char.ofNat b.toNat] else '%' :: Hex.ofByte b

/-- The byte that two hexadecimal digits spell. -/
def byteOf? (high low : UInt8) : Option UInt8 := do
  let h ← Hex.digitValue? (Char.ofNat high.toNat)
  let l ← Hex.digitValue? (Char.ofNat low.toNat)
  pure (UInt8.ofNat (16 * h + l))

/-- Read bytes back. -/
def decode : List UInt8 → List UInt8
  | 0x25 :: high :: low :: rest =>
      match byteOf? high low with
      | some b => b :: decode rest
      | none => 0x25 :: decode (high :: low :: rest)
  | b :: rest => b :: decode rest
  | [] => []
termination_by bytes => bytes.length

/-- The ASCII letters and digits. -/
def isAlphanumeric (b : UInt8) : Bool :=
  (0x30 ≤ b && b ≤ 0x39) || (0x41 ≤ b && b ≤ 0x5A) || (0x61 ≤ b && b ≤ 0x7A)

/-- The bytes that stand for themselves in a URI component: letters, digits and
`-_.!~*'()`. -/
def isComponentByte (b : UInt8) : Bool :=
  isAlphanumeric b ||
    [0x2D, 0x5F, 0x2E, 0x21, 0x7E, 0x2A, 0x27, 0x28, 0x29].contains b

/-- A text as a URI component. -/
def encodeComponent (s : Text) : Text :=
  encode isComponentByte (Utf8.encode s)

end Reroute.Percent

import Mathlib.Data.List.Basic
import Reroute.Percent
import Reroute.Text.Utf8

/-!
Reading percent-encoded bytes gives the bytes back, whichever of the ASCII characters but the
percent sign are kept.
-/
namespace Reroute

theorem Utf8.encode_append (s t : Text) : encode (s ++ t) = encode s ++ encode t :=
  List.flatMap_append

/-- The UTF-8 form of ASCII characters is one byte for each. -/
theorem Utf8.encode_of_ascii {s : Text} (hascii : ∀ c ∈ s, c.toNat < 0x80) :
    encode s = Text.toBytes s := by
  induction s with
  | nil => rfl
  | cons c rest ih =>
      have hone : String.utf8EncodeChar c = [UInt8.ofNat c.toNat] := by
        have hc : c.toNat ≤ 0x7F := Nat.le_of_lt_succ (hascii c List.mem_cons_self)
        simp [String.utf8EncodeChar, hc]
      rw [encode, List.flatMap_cons, hone]
      exact congrArg _ (ih fun d hd => hascii d (List.mem_cons_of_mem c hd))

namespace Hex

theorem toNat_upperDigit_lt : ∀ n < 16, (upperDigit n).toNat < 0x80 := by decide

end Hex

namespace Percent

variable {keep : UInt8 → Bool}

/-- The characters of encoded bytes: those of the bytes kept, percent signs and digits. -/
theorem mem_encode {bytes : List UInt8} {c : Char} (hc : c ∈ encode keep bytes) :
    (∃ b ∈ bytes, keep b = true ∧ c = Char.ofNat b.toNat) ∨ c = '%' ∨
      ∃ n < 16, c = Hex.upperDigit n := by
  obtain ⟨b, hb, hc⟩ := List.mem_flatMap.mp hc
  have hbyte : b.toNat < 256 := b.toNat_lt
  by_cases hkeep : keep b = true
  · rw [if_pos hkeep, List.mem_singleton] at hc
    exact Or.inl ⟨b, hb, hkeep, hc⟩
  · rw [if_neg hkeep] at hc
    simp only [Hex.ofByte, List.mem_cons, List.not_mem_nil, or_false] at hc
    rcases hc with hc | hc | hc
    · exact Or.inr (Or.inl hc)
    · exact Or.inr (Or.inr ⟨_, by omega, hc⟩)
    · exact Or.inr (Or.inr ⟨_, by omega, hc⟩)

theorem byteOf?_upperDigit (b : UInt8) :
    byteOf? (UInt8.ofNat (Hex.upperDigit (b.toNat / 16)).toNat)
      (UInt8.ofNat (Hex.upperDigit (b.toNat % 16)).toNat) = some b := by
  have hbyte : b.toNat < 256 := b.toNat_lt
  have hdigit : ∀ n < 16,
      Hex.digitValue? (Char.ofNat (UInt8.ofNat (Hex.upperDigit n).toNat).toNat) = some n := by
    decide
  have hvalue : 16 * (b.toNat / 16) + b.toNat % 16 = b.toNat := Nat.div_add_mod _ _
  rw [byteOf?, hdigit _ (by omega), hdigit _ (by omega)]
  change some (UInt8.ofNat (16 * (b.toNat / 16) + b.toNat % 16)) = some b
  rw [hvalue, UInt8.ofNat_toNat]

theorem decode_cons_of_ne {b : UInt8} (hb : b ≠ 0x25) (rest : List UInt8) :
    decode (b :: rest) = b :: decode rest := by
  rw [decode]
  intro high low after hsame _
  exact absurd hsame hb

theorem decode_cons_of_byteOf? {b high low : UInt8} (hbyte : byteOf? high low = some b)
    (rest : List UInt8) : decode (0x25 :: high :: low :: rest) = b :: decode rest := by
  rw [decode, hbyte]

/-- Encoded bytes are read back, if no byte above ASCII and no percent sign was kept. -/
theorem decode_encode (hkeep : ∀ b, keep b = true → b.toNat < 0x80 ∧ b ≠ 0x25)
    (bytes : List UInt8) : decode (Utf8.encode (encode keep bytes)) = bytes := by
  induction bytes with
  | nil => simp [encode, Utf8.encode, decode]
  | cons b rest ih =>
      have hcons : encode keep (b :: rest) = encode keep [b] ++ encode keep rest := by
        simp [encode]
      have hascii : ∀ c ∈ encode keep [b], c.toNat < 0x80 := by
        intro c hc
        rcases mem_encode hc with ⟨d, hd, hkept, rfl⟩ | rfl | ⟨n, hn, rfl⟩
        · rw [Text.toNat_charOfByte]
          exact (hkeep d hkept).1
        · decide
        · exact Hex.toNat_upperDigit_lt n hn
      rw [hcons, Utf8.encode_append, Utf8.encode_of_ascii hascii]
      by_cases hkept : keep b = true
      · have hspelled : Text.toBytes (encode keep [b]) = [b] := by
          simp [encode, hkept, Text.toBytes, Text.toNat_charOfByte]
        rw [hspelled, List.singleton_append, decode_cons_of_ne (hkeep b hkept).2, ih]
      · have hspelled : Text.toBytes (encode keep [b]) =
            [0x25, UInt8.ofNat (Hex.upperDigit (b.toNat / 16)).toNat,
              UInt8.ofNat (Hex.upperDigit (b.toNat % 16)).toNat] := by
          simp [encode, hkept, Text.toBytes, Hex.ofByte]
        rw [hspelled]
        exact (decode_cons_of_byteOf? (byteOf?_upperDigit b) _).trans (congrArg _ ih)

end Percent

end Reroute

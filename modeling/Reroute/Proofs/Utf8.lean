import Reroute.Text.Utf8

/-!
Reading the UTF-8 form of a text gives the text back.
-/
namespace Reroute.Utf8

/-! ### Sequences of one to four bytes -/

section Next

variable {lead second third fourth : UInt8} (tail : List UInt8)

theorem next_of_one (hlead : lead.toNat < 0x80) :
    next lead tail = (some (Char.ofNat lead.toNat), tail) := by
  have hlead : lead < 0x80 := UInt8.lt_iff_toNat_lt.mpr hlead
  simp [next, hlead]

theorem next_of_two (hlow : 0xC2 ≤ lead.toNat) (hhigh : lead.toNat ≤ 0xDF)
    (hsecond : isContinuation second) :
    next lead (second :: tail) =
      (some (Char.ofNat (lead.toNat % 0x20 * 0x40 + payload second)), tail) := by
  have hone : ¬lead < 0x80 := by
    rw [UInt8.lt_iff_toNat_lt, show (0x80 : UInt8).toNat = 0x80 from rfl]
    omega
  have htwo : 0xC2 ≤ lead ∧ lead ≤ 0xDF :=
    ⟨UInt8.le_iff_toNat_le.mpr hlow, UInt8.le_iff_toNat_le.mpr hhigh⟩
  simp [next, hone, htwo, hsecond]

theorem next_of_three (hlow : 0xE0 ≤ lead.toNat) (hhigh : lead.toNat ≤ 0xEF)
    (hsecond : mayFollowThree lead second) (hthird : isContinuation third) :
    next lead (second :: third :: tail) =
      (some (Char.ofNat
        (lead.toNat % 0x10 * 0x1000 + payload second * 0x40 + payload third)), tail) := by
  have hone : ¬lead < 0x80 := by
    rw [UInt8.lt_iff_toNat_lt, show (0x80 : UInt8).toNat = 0x80 from rfl]
    omega
  have htwo : ¬lead ≤ 0xDF := by
    rw [UInt8.le_iff_toNat_le, show (0xDF : UInt8).toNat = 0xDF from rfl]
    omega
  have hthree : 0xE0 ≤ lead ∧ lead ≤ 0xEF :=
    ⟨UInt8.le_iff_toNat_le.mpr hlow, UInt8.le_iff_toNat_le.mpr hhigh⟩
  simp [next, hone, htwo, hthree, hsecond, hthird]

theorem next_of_four (hlow : 0xF0 ≤ lead.toNat) (hhigh : lead.toNat ≤ 0xF4)
    (hsecond : mayFollowFour lead second) (hthird : isContinuation third)
    (hfourth : isContinuation fourth) :
    next lead (second :: third :: fourth :: tail) =
      (some (Char.ofNat (lead.toNat % 0x8 * 0x40000 + payload second * 0x1000 +
        payload third * 0x40 + payload fourth)), tail) := by
  have hone : ¬lead < 0x80 := by
    rw [UInt8.lt_iff_toNat_lt, show (0x80 : UInt8).toNat = 0x80 from rfl]
    omega
  have htwo : ¬lead ≤ 0xDF := by
    rw [UInt8.le_iff_toNat_le, show (0xDF : UInt8).toNat = 0xDF from rfl]
    omega
  have hthree : ¬lead ≤ 0xEF := by
    rw [UInt8.le_iff_toNat_le, show (0xEF : UInt8).toNat = 0xEF from rfl]
    omega
  have hfour : 0xF0 ≤ lead ∧ lead ≤ 0xF4 :=
    ⟨UInt8.le_iff_toNat_le.mpr hlow, UInt8.le_iff_toNat_le.mpr hhigh⟩
  simp [next, hone, htwo, hthree, hfour, hsecond, hthird, hfourth]

end Next

/-! ### The bytes that follow -/

theorem isContinuation_iff (byte : UInt8) :
    isContinuation byte ↔ 0x80 ≤ byte.toNat ∧ byte.toNat ≤ 0xBF := by
  simp [isContinuation, UInt8.le_iff_toNat_le]

theorem mayFollowThree_iff (lead second : UInt8) :
    mayFollowThree lead second ↔
      (0x80 ≤ second.toNat ∧ second.toNat ≤ 0xBF) ∧
        (lead.toNat = 0xE0 → 0xA0 ≤ second.toNat) ∧
        (lead.toNat = 0xED → second.toNat ≤ 0x9F) := by
  simp only [mayFollowThree, isContinuation, ← UInt8.toNat_inj, UInt8.le_iff_toNat_le,
    UInt8.reduceToNat]
  split
  · simp
    omega
  · split <;> simp <;> omega

theorem mayFollowFour_iff (lead second : UInt8) :
    mayFollowFour lead second ↔
      (0x80 ≤ second.toNat ∧ second.toNat ≤ 0xBF) ∧
        (lead.toNat = 0xF0 → 0x90 ≤ second.toNat) ∧
        (lead.toNat = 0xF4 → second.toNat ≤ 0x8F) := by
  simp only [mayFollowFour, isContinuation, ← UInt8.toNat_inj, UInt8.le_iff_toNat_le,
    UInt8.reduceToNat]
  split
  · simp
    omega
  · split <;> simp <;> omega

/-! ### The form of a character -/

theorem toNat_ofNat {n : Nat} (hbyte : n < 0x100) : (UInt8.ofNat n).toNat = n :=
  UInt8.toNat_ofNat_of_lt' hbyte

/-- The byte of a sequence that carries six bits of a number. -/
def trailing (n : Nat) : UInt8 :=
  UInt8.ofNat (n % 0x40 + 0x80)

theorem toNat_trailing (n : Nat) : (trailing n).toNat = n % 0x40 + 0x80 :=
  toNat_ofNat (by omega)

theorem isContinuation_trailing (n : Nat) : isContinuation (trailing n) := by
  rw [isContinuation_iff, toNat_trailing]
  omega

theorem payload_trailing (n : Nat) : payload (trailing n) = n % 0x40 := by
  rw [payload, toNat_trailing]
  omega

/-- A byte sequence that begins with the form of a character has that character first, and
what follows is left as it is. -/
theorem next_encodeChar (c : Char) (tail : List UInt8) :
    ∃ lead rest, String.utf8EncodeChar c = lead :: rest ∧
      next lead (rest ++ tail) = (some c, tail) := by
  have hvalid : c.val.toNat < 0xD800 ∨ 0xDFFF < c.val.toNat ∧ c.val.toNat < 0x110000 := c.valid
  have hofNat : Char.ofNat c.val.toNat = c := Char.ofNat_toNat c
  fun_cases String.utf8EncodeChar c
  case case1 v hone =>
    have hlead : (UInt8.ofNat v).toNat = v := toNat_ofNat (by omega)
    refine ⟨UInt8.ofNat v, [], rfl, ?_⟩
    rw [List.nil_append, next_of_one tail (by omega), hlead, hofNat]
  case case2 v hone htwo =>
    have hlead : (UInt8.ofNat (v / 64 % 0x20 + 0xC0)).toNat = v / 64 % 0x20 + 0xC0 :=
      toNat_ofNat (by omega)
    have hvalue : (v / 64 % 0x20 + 0xC0) % 0x20 * 0x40 + v % 0x40 = v := by omega
    refine ⟨_, [trailing v], rfl, ?_⟩
    rw [List.cons_append, List.nil_append,
      next_of_two tail (by omega) (by omega) (isContinuation_trailing v),
      hlead, payload_trailing, hvalue, hofNat]
  case case3 v hone htwo hthree =>
    have hlead : (UInt8.ofNat (v / 4096 % 0x10 + 0xE0)).toNat = v / 4096 % 0x10 + 0xE0 :=
      toNat_ofNat (by omega)
    have hsecond : mayFollowThree (UInt8.ofNat (v / 4096 % 0x10 + 0xE0)) (trailing (v / 64)) := by
      rw [mayFollowThree_iff, hlead, toNat_trailing]
      omega
    have hvalue : (v / 4096 % 0x10 + 0xE0) % 0x10 * 0x1000 + v / 64 % 0x40 * 0x40 + v % 0x40 =
        v := by omega
    refine ⟨_, [trailing (v / 64), trailing v], rfl, ?_⟩
    rw [List.cons_append, List.cons_append, List.nil_append,
      next_of_three tail (by omega) (by omega) hsecond (isContinuation_trailing v),
      hlead, payload_trailing, payload_trailing, hvalue, hofNat]
  case case4 v hone htwo hthree =>
    have hlead : (UInt8.ofNat (v / 262144 % 0x08 + 0xF0)).toNat = v / 262144 % 0x08 + 0xF0 :=
      toNat_ofNat (by omega)
    have hsecond : mayFollowFour (UInt8.ofNat (v / 262144 % 0x08 + 0xF0))
        (trailing (v / 4096)) := by
      rw [mayFollowFour_iff, hlead, toNat_trailing]
      omega
    have hvalue : (v / 262144 % 0x08 + 0xF0) % 0x8 * 0x40000 + v / 4096 % 0x40 * 0x1000 +
        v / 64 % 0x40 * 0x40 + v % 0x40 = v := by omega
    refine ⟨_, [trailing (v / 4096), trailing (v / 64), trailing v], rfl, ?_⟩
    rw [List.cons_append, List.cons_append, List.cons_append, List.nil_append,
      next_of_four tail (by omega) (by omega) hsecond (isContinuation_trailing (v / 64))
        (isContinuation_trailing v),
      hlead, payload_trailing, payload_trailing, payload_trailing, hvalue, hofNat]

/-! ### The form of a text -/

theorem chunks_encode (s : Text) : chunks (encode s) = s.map some := by
  induction s with
  | nil => simp [encode, chunks]
  | cons c rest ih =>
      obtain ⟨lead, following, hencode, hnext⟩ := next_encodeChar c (encode rest)
      have hcons : encode (c :: rest) = lead :: (following ++ encode rest) := by
        rw [encode, List.flatMap_cons, hencode]
        rfl
      rw [hcons, chunks, hnext, ih]
      rfl

theorem decode?_encode (s : Text) : decode? (encode s) = some s := by
  rw [decode?, chunks_encode]
  induction s with
  | nil => rfl
  | cons c rest ih => simp [ih]

/-- The lossy reading replaces nothing in it. -/
theorem decodeLossy_encode (s : Text) : decodeLossy (encode s) = s := by
  simp [decodeLossy, chunks_encode, Function.comp_def]

end Reroute.Utf8

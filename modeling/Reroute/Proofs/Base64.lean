import Mathlib.Data.List.Basic
import Mathlib.Tactic.SplitIfs
import Reroute.Text.Base64

/-!
The lenient reading of base64 refuses no text: cleaning leaves letters alone, and never one
letter too many.  Bytes that were written are read back, since their letters carry six bits each
and the padding is cut off.
-/
namespace Reroute.Base64

theorem letterValue?_isSome_of_isAlphanum {c : Char} (halpha : c.isAlphanum) :
    (letterValue? c).isSome := by
  have hranges : (c.isUpper || c.isLower || c.isDigit) = true := halpha
  have hrange : ∀ first last : Char, (decide (first ≤ c) && decide (c ≤ last)) = true →
      first ≤ c ∧ c ≤ last := by simp
  unfold letterValue?
  split_ifs with hupper hlower hdigit
  any_goals rfl
  · simp only [Bool.or_eq_true] at hranges
    rcases hranges with (hletter | hletter) | hletter
    · exact absurd (of_decide_eq_true hletter) hupper
    · exact absurd (hrange 'a' 'z' hletter) hlower
    · exact absurd (hrange '0' '9' hletter) hdigit

/-- Every letter that a character stands for has a value. -/
theorem letterValue?_of_letter? {c letter : Char} (hletter : letter? c = some letter) :
    (letterValue? letter).isSome := by
  unfold letter? at hletter
  split_ifs at hletter with hminus hunder hplain
  · obtain rfl := Option.some.inj hletter
    decide
  · obtain rfl := Option.some.inj hletter
    decide
  · obtain rfl := Option.some.inj hletter
    simp only [Bool.or_eq_true, beq_iff_eq] at hplain
    rcases hplain with (halpha | rfl) | rfl
    · exact letterValue?_isSome_of_isAlphanum halpha
    · decide
    · decide

theorem letterValue?_of_mem_letters {s : Text} {letter : Char} (hmem : letter ∈ letters s) :
    (letterValue? letter).isSome := by
  obtain ⟨c, -, hletter⟩ := List.mem_filterMap.mp hmem
  exact letterValue?_of_letter? hletter

/-! ### Cleaning -/

theorem letterValue?_of_mem_clean {s : Text} {letter : Char} (hmem : letter ∈ clean s) :
    (letterValue? letter).isSome := by
  unfold clean at hmem
  split at hmem
  · exact letterValue?_of_mem_letters ((List.dropLast_subset _) hmem)
  · exact letterValue?_of_mem_letters hmem

/-- No letter of a cleaned text stands alone in its group. -/
theorem length_clean_mod (s : Text) : (clean s).length % 4 ≠ 1 := by
  unfold clean
  split
  case isTrue hdangling =>
      rw [List.length_dropLast]
      omega
  case isFalse hwhole => exact hwhole

/-! ### Reading -/

theorem values_of_letters {s : Text} (hletters : ∀ c ∈ s, (letterValue? c).isSome)
    (offset : Nat) : ∃ read, values offset s = .ok read := by
  induction s generalizing offset with
  | nil => exact ⟨[], rfl⟩
  | cons c rest ih =>
      obtain ⟨value, hvalue⟩ := Option.isSome_iff_exists.mp (hletters c List.mem_cons_self)
      obtain ⟨read, hread⟩ := ih (fun d hd => hletters d (List.mem_cons_of_mem c hd)) (offset + 1)
      exact ⟨value :: read, by simp [values, hvalue, hread, Except.map]⟩

/-- The strict reading takes letters in whole groups, but for a last one of two or three. -/
theorem decodeLetters_isOk {s : Text} (hletters : ∀ c ∈ s, (letterValue? c).isSome)
    (hlength : s.length % 4 ≠ 1) : ∃ bytes, decodeLetters s = .ok bytes := by
  obtain ⟨read, hread⟩ := values_of_letters hletters 0
  exact ⟨ofValues read, by simp [decodeLetters, hlength, hread, Except.map]⟩

/-- The lenient reading takes every text. -/
theorem decode_isOk (s : Text) : ∃ bytes, decode s = .ok bytes :=
  decodeLetters_isOk (fun _ hmem => letterValue?_of_mem_clean hmem) (length_clean_mod s)

example : decode "a_-/ b=c".toList = .ok [0x6B, 0xFF, 0xBF] := rfl

/-! ### Written bytes -/

/-- The values of the letters that bytes are written with. -/
def sextets : List UInt8 → List Nat
  | [] => []
  | [a] => [a.toNat / 4, a.toNat % 4 * 16]
  | [a, b] => [a.toNat / 4, a.toNat % 4 * 16 + b.toNat / 16, b.toNat % 16 * 4]
  | a :: b :: c :: rest =>
      (a.toNat / 4) :: (a.toNat % 4 * 16 + b.toNat / 16) :: (b.toNat % 16 * 4 + c.toNat / 64) ::
        (c.toNat % 64) :: sextets rest

/-- Bytes are written as the letters of their values, and nothing but padding behind. -/
theorem encode_eq (bytes : List UInt8) :
    ∃ padding, encode bytes = (sextets bytes).map letter ++ padding ∧ ∀ c ∈ padding, c = '=' := by
  fun_induction sextets bytes with
  | case1 => exact ⟨[], rfl, by simp⟩
  | case2 a => exact ⟨['=', '='], rfl, by simp⟩
  | case3 a b => exact ⟨['='], rfl, by simp⟩
  | case4 a b c rest ih =>
      obtain ⟨padding, hrest, hpadding⟩ := ih
      exact ⟨padding, by simp [encode, hrest], hpadding⟩

theorem sextets_lt (bytes : List UInt8) : ∀ n ∈ sextets bytes, n < 64 := by
  fun_induction sextets bytes with
  | case1 => simp
  | case2 a =>
      have ha := a.toNat_lt
      simp only [List.forall_mem_cons]
      refine ⟨?_, ?_, by simp⟩ <;> omega
  | case3 a b =>
      have ha := a.toNat_lt
      have hb := b.toNat_lt
      simp only [List.forall_mem_cons]
      refine ⟨?_, ?_, ?_, by simp⟩ <;> omega
  | case4 a b c rest ih =>
      have ha := a.toNat_lt
      have hb := b.toNat_lt
      have hc := c.toNat_lt
      simp only [List.forall_mem_cons]
      refine ⟨?_, ?_, ?_, ?_, ih⟩ <;> omega

/-- A group of three bytes makes four values, one of two makes three and a single byte two. -/
theorem length_sextets (bytes : List UInt8) :
    (sextets bytes).length = (4 * bytes.length + 2) / 3 := by
  fun_induction sextets bytes with
  | case1 => rfl
  | case2 a => simp
  | case3 a b => simp
  | case4 a b c rest ih =>
      simp only [List.length_cons]
      omega

/-- The values carry all bits of the bytes. -/
theorem ofValues_sextets (bytes : List UInt8) : ofValues (sextets bytes) = bytes := by
  have hbyte : ∀ (a : UInt8) (n : Nat), n = a.toNat → UInt8.ofNat n = a := by
    rintro a _ rfl
    exact UInt8.ofNat_toNat
  fun_induction sextets bytes with
  | case1 => rfl
  | case2 a =>
      have ha := a.toNat_lt
      rw [ofValues, hbyte a _ (by omega)]
  | case3 a b =>
      have ha := a.toNat_lt
      have hb := b.toNat_lt
      rw [ofValues, hbyte a _ (by omega), hbyte b _ (by omega)]
  | case4 a b c rest ih =>
      have ha := a.toNat_lt
      have hb := b.toNat_lt
      have hc := c.toNat_lt
      rw [ofValues, hbyte a _ (by omega), hbyte b _ (by omega), hbyte c _ (by omega), ih]

/-- A letter is read as its value and survives the cleaning. -/
theorem letter_spec : ∀ n < 64, letterValue? (letter n) = some n ∧
    letter? (letter n) = some (letter n) ∧ letter n ≠ '=' ∧ letter n ≠ '\n' := by decide

section Letters

variable {ns : List Nat} (hbound : ∀ n ∈ ns, n < 64)

include hbound

theorem values_map_letter (offset : Nat) : values offset (ns.map letter) = .ok ns := by
  induction ns generalizing offset with
  | nil => rfl
  | cons n rest ih =>
      obtain ⟨hvalue, -⟩ := letter_spec n (hbound n List.mem_cons_self)
      rw [List.map_cons, values, hvalue, ih fun m hm => hbound m (List.mem_cons_of_mem n hm)]
      rfl

/-- Letters stand for themselves, and no padding is among them. -/
theorem of_mem_map_letter {c : Char} (hc : c ∈ ns.map letter) :
    letter? c = some c ∧ c ≠ '=' ∧ c ≠ '\n' := by
  obtain ⟨n, hn, rfl⟩ := List.mem_map.mp hc
  exact (letter_spec n (hbound n hn)).2

end Letters

/-- What stands from the first `=` on is left out. -/
theorem letters_append {s behind : Text} (hmark : '=' ∉ s)
    (hbehind : ∀ c ∈ behind.head?, c = '=') : letters (s ++ behind) = s.filterMap letter? := by
  have hkept : ∀ c ∈ s, (c != '=') = true := by
    intro c hc
    simpa using fun hsame : c = '=' => hmark (hsame ▸ hc)
  have hcut : behind.takeWhile (fun c => c != '=') = [] := by
    cases behind with
    | nil => rfl
    | cons c rest =>
        have hc : c = '=' := hbehind c rfl
        exact List.takeWhile_cons_of_neg (by simp [hc])
  rw [letters, List.takeWhile_append_of_pos hkept, hcut, List.append_nil]

section Written

variable {bytes : List UInt8} {s : Text}

/-- Bytes are read from the letters of their values. -/
theorem decode_of_clean (hclean : clean s = (sextets bytes).map letter) :
    decode s = .ok bytes := by
  have hwhole := length_clean_mod s
  rw [hclean] at hwhole
  rw [decode, hclean, decodeLetters, if_neg hwhole, values_map_letter (sextets_lt bytes)]
  exact congrArg Except.ok (ofValues_sextets bytes)

/-- No letter of theirs stands alone in its group. -/
theorem decode_of_letters (hletters : letters s = (sextets bytes).map letter) :
    decode s = .ok bytes := by
  have hwhole : ¬(letters s).length % 4 = 1 := by
    rw [hletters, List.length_map, length_sextets]
    omega
  exact decode_of_clean (by rw [clean, if_neg hwhole, hletters])

end Written

theorem lineFeed_notMem_encode (bytes : List UInt8) : '\n' ∉ encode bytes := by
  obtain ⟨padding, hencode, hpadding⟩ := encode_eq bytes
  rw [hencode, List.mem_append]
  rintro (hletter | hpad)
  · exact (of_mem_map_letter (sextets_lt bytes) hletter).2.2 rfl
  · exact absurd (hpadding _ hpad) (by decide)

/-- Bytes that were written are read back. -/
theorem decode_encode (bytes : List UInt8) : decode (encode bytes) = .ok bytes := by
  obtain ⟨padding, hencode, hpadding⟩ := encode_eq bytes
  have hspec := fun c (hc : c ∈ (sextets bytes).map letter) =>
    of_mem_map_letter (sextets_lt bytes) hc
  apply decode_of_letters
  rw [hencode, letters_append (fun hmark => (hspec '=' hmark).2.1 rfl) fun c hc =>
    hpadding c (List.mem_of_mem_head? hc)]
  rw [List.filterMap_congr fun c hc => (hspec c hc).1, List.filterMap_some]

end Reroute.Base64

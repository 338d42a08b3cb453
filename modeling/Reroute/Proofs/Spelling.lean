import Reroute.Proofs.Base64

/-!
Spellings of base64.  The letters of bytes may be written with the two of the URL-safe alphabet,
with characters between them that belong to neither, without padding or with more of it and
anything behind.  The main statement: every spelling is read as the bytes, and so is one with a
single letter too many behind whole groups.
-/
namespace Reroute.Base64

/-- The letters of bytes without padding. -/
def unpadded (bytes : List UInt8) : Text :=
  (encode bytes).filter fun c => c != '='

/-- Whether a character is a letter of either alphabet. -/
def isEitherLetter (c : Char) : Bool :=
  c.isAlphanum || ['+', '/', '-', '_'].contains c

/-- Whether a character has no meaning in either alphabet. -/
def isNoise (c : Char) : Bool :=
  !isEitherLetter c && c != '='

/-- A text that spells letters: each stands for itself or has its URL-safe form, and noise may
stand anywhere. -/
inductive Spells : Text → Text → Prop
  | nil : Spells [] []
  | noise {c : Char} {s letters : Text} (hnoise : isNoise c = true) (hs : Spells s letters) :
      Spells (c :: s) letters
  | same (c : Char) {s letters : Text} (hs : Spells s letters) : Spells (c :: s) (c :: letters)
  | minus {s letters : Text} (hs : Spells s letters) : Spells ('-' :: s) ('+' :: letters)
  | underscore {s letters : Text} (hs : Spells s letters) : Spells ('_' :: s) ('/' :: letters)

/-! ### Characters -/

theorem letter?_isSome_iff {c : Char} : (letter? c).isSome ↔ isEitherLetter c = true := by
  unfold letter? isEitherLetter
  by_cases hminus : c = '-'
  · simp [hminus]
  · by_cases hunderscore : c = '_'
    · simp [hunderscore]
    · simp [hminus, hunderscore, or_assoc]

theorem letter?_of_isNoise {c : Char} (hnoise : isNoise c = true) : letter? c = none := by
  rw [← Option.not_isSome_iff_eq_none, letter?_isSome_iff]
  simp only [isNoise, Bool.and_eq_true, Bool.not_eq_true'] at hnoise
  simp [hnoise.1]

theorem ne_mark_of_isNoise {c : Char} (hnoise : isNoise c = true) : c ≠ '=' := by
  rintro rfl
  exact absurd hnoise (by decide)

theorem filterMap_letter?_of_isNoise {noise : Text} (hnoise : ∀ c ∈ noise, isNoise c = true) :
    noise.filterMap letter? = [] :=
  List.filterMap_eq_nil_iff.mpr fun c hc => letter?_of_isNoise (hnoise c hc)

/-! ### Letters spelled -/

section Spelled

variable {s letters : Text}

/-- The letters are found again. -/
theorem Spells.filterMap_letter? (hs : Spells s letters)
    (hletters : ∀ c ∈ letters, letter? c = some c) : s.filterMap letter? = letters := by
  induction hs with
  | nil => rfl
  | noise hnoise _ ih => rw [List.filterMap_cons_none (letter?_of_isNoise hnoise), ih hletters]
  | same c _ ih =>
      rw [List.filterMap_cons_some (hletters c List.mem_cons_self),
        ih fun d hd => hletters d (List.mem_cons_of_mem c hd)]
  | minus _ ih =>
      rw [List.filterMap_cons_some (show letter? '-' = some '+' from rfl),
        ih fun d hd => hletters d (List.mem_cons_of_mem '+' hd)]
  | underscore _ ih =>
      rw [List.filterMap_cons_some (show letter? '_' = some '/' from rfl),
        ih fun d hd => hletters d (List.mem_cons_of_mem '/' hd)]

/-- No padding is among them. -/
theorem Spells.mark_notMem (hs : Spells s letters) (hmark : '=' ∉ letters) : '=' ∉ s := by
  induction hs with
  | nil => exact hmark
  | noise hnoise _ ih =>
      simpa using ⟨(ne_mark_of_isNoise hnoise).symm, ih hmark⟩
  | same c _ ih =>
      simp only [List.mem_cons, not_or] at hmark ⊢
      exact ⟨hmark.1, ih hmark.2⟩
  | minus _ ih =>
      simp only [List.mem_cons, not_or] at hmark
      simpa using ih hmark.2
  | underscore _ ih =>
      simp only [List.mem_cons, not_or] at hmark
      simpa using ih hmark.2

end Spelled

/-! ### Bytes spelled -/

section Bytes

variable {bytes : List UInt8} {s : Text}

theorem unpadded_eq (bytes : List UInt8) : unpadded bytes = (sextets bytes).map letter := by
  obtain ⟨padding, hencode, hpadding⟩ := encode_eq bytes
  have hkept : ((sextets bytes).map letter).filter (fun c => c != '=') =
      (sextets bytes).map letter := by
    rw [List.filter_eq_self]
    intro c hc
    simpa using (of_mem_map_letter (sextets_lt bytes) hc).2.1
  have hdropped : padding.filter (fun c => c != '=') = [] := by
    rw [List.filter_eq_nil_iff]
    intro c hc
    simp [hpadding c hc]
  rw [unpadded, hencode, List.filter_append, hkept, hdropped, List.append_nil]

/-- What the spelling of bytes leaves of letters, and that it holds no padding. -/
theorem Spells.of_unpadded (hs : Spells s (unpadded bytes)) :
    s.filterMap letter? = (sextets bytes).map letter ∧ '=' ∉ s := by
  rw [unpadded_eq] at hs
  have hspec := fun c (hc : c ∈ (sextets bytes).map letter) =>
    of_mem_map_letter (sextets_lt bytes) hc
  exact ⟨hs.filterMap_letter? fun c hc => (hspec c hc).1,
    hs.mark_notMem fun hmark => (hspec '=' hmark).2.1 rfl⟩

/-- Padding of any length and whatever stands behind it changes nothing. -/
theorem Spells.decode_append (hs : Spells s (unpadded bytes)) {behind : Text}
    (hbehind : ∀ c ∈ behind.head?, c = '=') : decode (s ++ behind) = .ok bytes := by
  obtain ⟨hletters, hmark⟩ := hs.of_unpadded
  exact decode_of_letters (by rw [letters_append hmark hbehind, hletters])

/-- Behind whole groups a single letter is left out. -/
theorem Spells.decode_dangling (hs : Spells s (unpadded bytes)) (hwhole : bytes.length % 3 = 0)
    {c : Char} (hc : isEitherLetter c = true) {noise : Text}
    (hnoise : ∀ d ∈ noise, isNoise d = true) : decode (s ++ c :: noise) = .ok bytes := by
  obtain ⟨hletters, hmark⟩ := hs.of_unpadded
  obtain ⟨dangling, hdangling⟩ := Option.isSome_iff_exists.mp (letter?_isSome_iff.mpr hc)
  have hplain : '=' ∉ s ++ c :: noise := by
    have hmarkNoise : '=' ∉ noise := fun hmem => ne_mark_of_isNoise (hnoise '=' hmem) rfl
    have hmarkLetter : '=' ≠ c := by
      rintro rfl
      exact absurd hc (by decide)
    simp [hmark, hmarkLetter, hmarkNoise]
  have hall : letters (s ++ c :: noise) = (sextets bytes).map letter ++ [dangling] := by
    rw [← List.append_nil (s ++ c :: noise), letters_append hplain (by simp),
      List.filterMap_append, hletters, List.filterMap_cons_some hdangling,
      filterMap_letter?_of_isNoise hnoise]
  have halone : (letters (s ++ c :: noise)).length % 4 = 1 := by
    rw [hall, List.length_append, List.length_map, length_sextets, List.length_singleton]
    omega
  apply decode_of_clean
  rw [clean, if_pos halone, hall, List.dropLast_concat]

/-- Every spelling of the letters of bytes is read as the bytes: as it stands, without padding,
and with any padding behind which there may be anything.  Where the bytes fill their groups of
three, so is one with a letter more at its end. -/
theorem decode_spells (bytes : List UInt8) (s : Text) (hs : Spells s (unpadded bytes)) :
    decode s = .ok bytes ∧
      (∀ behind, decode (s ++ '=' :: behind) = .ok bytes) ∧
      (bytes.length % 3 = 0 → ∀ c, isEitherLetter c = true →
        ∀ noise, (∀ d ∈ noise, isNoise d = true) → decode (s ++ c :: noise) = .ok bytes) := by
  have hbare : decode (s ++ []) = .ok bytes := hs.decode_append (by simp)
  rw [List.append_nil] at hbare
  exact ⟨hbare, fun behind => hs.decode_append (by simp),
    fun hwhole c hc noise hnoise => hs.decode_dangling hwhole hc hnoise⟩

end Bytes

namespace SpellingWitness

def bytes : List UInt8 := [0xFB, 0xF0, 0x3F]

/-- The letters `+/A/` over two lines, with both forms of the slash and a character beyond
ASCII. -/
def text : Text := "-/\r\nA é_".toList

theorem spells_text : Spells text (unpadded bytes) :=
  .minus (.same '/' (.noise (by decide) (.noise (by decide) (.same 'A' (.noise (by decide)
    (.noise (by decide) (.underscore .nil)))))))

end SpellingWitness

open SpellingWitness in
theorem decode_spells_lines :
    Spells text (unpadded bytes) ∧ bytes.length % 3 = 0 ∧
      decode "-/\r\nA é_".toList = .ok bytes ∧
      decode "-/\r\nA é_=A=é".toList = .ok bytes ∧
      decode "-/\r\nA é_-\n".toList = .ok bytes := by
  obtain ⟨hbare, hpadded, hdangling⟩ := decode_spells bytes text spells_text
  exact ⟨spells_text, rfl, hbare, hpadded "A=é".toList,
    hdangling rfl '-' (by decide) ['\n'] (by simp [isNoise, isEitherLetter])⟩

end Reroute.Base64
